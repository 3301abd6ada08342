/-! The words of a command line, as a shell cuts and quotes them.

Spaces, tabs and line feeds stand between words. Single quotes keep everything as it is.
Double quotes keep everything but a backslash before a dollar sign, a backquote, a double
quote, a backslash or a line feed. Outside quotes a backslash keeps the next character. A
backslash before a line feed, outside single quotes, goes with it. A number sign at the
start of a word begins a comment, which ends with the line. -/

namespace Courier.Shell

/-- Where a splitter stands. Inside a word it holds the characters so far, the latest
first. -/
inductive Place where
  | gap
  | comment
  | word (done : List Char)
  | single (done : List Char)
  | double (done : List Char)
  /-- After a backslash outside quotes. -/
  | escape (done : List Char)
  /-- After a backslash in double quotes. -/
  | doubleEscape (done : List Char)

/-- The characters between words. -/
def isSeparator (c : Char) : Bool :=
  c = ' ' || c = '\t' || c = '\n'

/-- The place after a character of a word that stands outside quotes. -/
def Place.bare (done : List Char) (c : Char) : Place :=
  if c = '"' then .double done
  else if c = '\'' then .single done
  else if c = '\\' then .escape done
  else .word (c :: done)

/-- Whether a backslash in double quotes goes away before a character. -/
def isEscapable (c : Char) : Bool :=
  c = '$' || c = '\x60' || c = '"' || c = '\\'

/-- The words from a place on, unless a quote or a backslash has no end. -/
def wordsFrom? : Place → List Char → Option (List (List Char))
  | .gap, [] => some []
  | .comment, [] => some []
  | .word done, [] => some [done.reverse]
  | _, [] => none
  | .gap, c :: cs =>
    if isSeparator c then wordsFrom? .gap cs
    else if c = '#' then wordsFrom? .comment cs
    else wordsFrom? (.bare [] c) cs
  | .comment, c :: cs => wordsFrom? (if c = '\n' then .gap else .comment) cs
  | .word done, c :: cs =>
    if isSeparator c then (wordsFrom? .gap cs).map (done.reverse :: ·)
    else wordsFrom? (.bare done c) cs
  | .single done, c :: cs => wordsFrom? (if c = '\'' then .word done else .single (c :: done)) cs
  | .double done, c :: cs =>
    if c = '"' then wordsFrom? (.word done) cs
    else if c = '\\' then wordsFrom? (.doubleEscape done) cs
    else wordsFrom? (.double (c :: done)) cs
  | .escape done, c :: cs => wordsFrom? (.word (if c = '\n' then done else c :: done)) cs
  | .doubleEscape done, c :: cs =>
    if c = '\n' then wordsFrom? (.double done) cs
    else if isEscapable c then wordsFrom? (.double (c :: done)) cs
    else wordsFrom? (.double (c :: '\\' :: done)) cs

/-- The words of a command line. -/
def words? (line : String) : Option (List String) :=
  (wordsFrom? .gap line.toList).map (List.map String.ofList)

/-- A character inside single quotes; a quote closes them, stands escaped, and opens them
again. -/
def quoteChar (c : Char) : List Char :=
  if c = '\'' then ['\'', '\\', '\'', '\''] else [c]

/-- The characters of a word in single quotes. -/
def quoteChars (cs : List Char) : List Char :=
  '\'' :: cs.flatMap quoteChar ++ ['\'']

/-- A word in single quotes. -/
def quote (word : String) : String :=
  String.ofList (quoteChars word.toList)

end Courier.Shell
