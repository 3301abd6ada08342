import Courier.Text.Split
import Courier.Text.Utf8
import Courier.Files.Path

/-! Reading files: a tree of directories, a table, and nothing at all.

A tree is a list of files with the names on the way to each from a root directory. Every
beginning of such a way is a directory. Of what lies outside the root only the directories
above it are known, and nothing in them. -/

namespace Courier.Files

/-- Why a file cannot be read. -/
inductive Error where
  /-- There is no such base directory here. -/
  | unavailable (base : BaseDirectory)
  /-- A table of files has none for this path and base directory. -/
  | unlisted (path : String) (base : BaseDirectory)
  | notFound
  | notDirectory
  | isDirectory
  | nameTooLong
  /-- No file can have a name with this character. -/
  | nulInName
  /-- The file is read as text and is not UTF-8. -/
  | notText (reason : Utf8.Error)
  deriving DecidableEq, Repr

/-- The wording of an error. -/
def Error.message : Error → String
  | .unavailable base => s!"{base.name} directory is not available"
  | .unlisted path base => s!"no file {path} in {base.name}"
  | .notFound => "No such file or directory (os error 2)"
  | .notDirectory => "Not a directory (os error 20)"
  | .isDirectory => "Is a directory (os error 21)"
  | .nameTooLong => "File name too long (os error 36)"
  | .nulInName => "file name contained an unexpected NUL byte"
  | .notText reason => reason.message

/-- A way to read files: by a path and a base directory. -/
abbrev Reader := String → BaseDirectory → Except Error (List UInt8)

/-- Reads a file as text. -/
def Reader.readText (read : Reader) (path : String) (base : BaseDirectory) :
    Except Error String := do
  let bs ← read path base
  (Utf8.decode bs).mapError .notText

structure Tree where
  files : List (List String × List UInt8)

namespace Tree

/-- The place in a tree that a walk along a path has reached. -/
inductive Place where
  /-- A directory of the tree. -/
  | inside (names : List String)
  /-- A directory above the root. -/
  | outside
  /-- A file. -/
  | file (content : List UInt8)

/-- Puts a file at a path below the root, in the place of any other there. -/
def add (t : Tree) (path : String) (content : List UInt8) : Tree :=
  let names := (Text.split separator path).filter fun name => name ≠ "" ∧ name ≠ "."
  ⟨(names, content) :: t.files.filter (·.1 ≠ names)⟩

/-- The longest name of a file, in bytes. -/
def longestName : Nat := 255

/-- One step of a walk. Only a directory can be left, even for itself. -/
def step (t : Tree) (place : Place) (name : String) : Except Error Place :=
  match place with
  | .file _ => .error .notDirectory
  | .outside =>
    if name = "" ∨ name = "." ∨ name = ".." then .ok .outside
    else if longestName < Utf8.size name.toList then .error .nameTooLong
    else .error .notFound
  | .inside names =>
    if name = "" ∨ name = "." then .ok (.inside names)
    else if name = ".." then
      .ok (if names.isEmpty then .outside else .inside names.dropLast)
    else if longestName < Utf8.size name.toList then .error .nameTooLong
    else
      let names := names ++ [name]
      match t.files.find? (·.1 = names) with
      | some (_, content) => .ok (.file content)
      | none =>
        if t.files.any fun (way, _) => names.isPrefixOf way then .ok (.inside names)
        else .error .notFound

/-- The content of the file at a path, from the root or, for an absolute path, from the
top of all directories. -/
def readPath (t : Tree) (path : String) : Except Error (List UInt8) :=
  if path.toList.contains '\x00' then .error .nulInName
  else
    let start := if isAbsolute path then .outside else .inside []
    match (Text.split separator path).foldlM t.step start with
    | .error e => .error e
    | .ok (.file content) => .ok content
    | .ok _ => .error .isDirectory

/-- Reads the files of a tree, whatever the base directory. -/
def reader (t : Tree) : Reader :=
  fun path _ => t.readPath path

end Tree

/-- Reads where there is no base directory: an absolute path leads to no known file. -/
def bareReader : Reader :=
  fun path base =>
    if isAbsolute path then Tree.readPath ⟨[]⟩ path else .error (.unavailable base)

/-- Reads the files of a table, which holds each under its base directory and path. -/
def tableReader (table : List ((BaseDirectory × String) × List UInt8)) : Reader :=
  fun path base =>
    match table.find? (·.1 = (base, path)) with
    | some (_, content) => .ok content
    | none => .error (.unlisted path base)

end Courier.Files
