import Courier.Text.Blank

/-! Bringing a pasted command into one line.

What people paste has a prompt in front, the line continuations of one shell or another,
and line ends. All this goes in a fixed order of steps, and what is left starts with the
word `curl` and a space if it is a command at all. -/

namespace Courier.Command

/-- The text behind a word at the start, in any letter case. -/
def afterWord? (word : String) (cs : List Char) : Option (List Char) :=
  if word.toList.isPrefixOf (cs.map Char.toLower) then some (cs.drop word.length) else none

/-- Whether the text starts with a blank. -/
def startsBlank : List Char → Bool
  | [] => false
  | c :: _ => Text.isBlank c

/-- Whether the text starts with the name of the command, with or without the ending of a
program, such that the text behind it is as wanted. -/
def startsCommand (wanted : List Char → Bool) (cs : List Char) : Bool :=
  match afterWord? "curl" cs with
  | none => false
  | some rest => wanted rest || (afterWord? ".exe" rest).any wanted

/-- The text from the first command in it that a blank follows, if there is one. -/
def fromCommand? : List Char → Option (List Char)
  | [] => none
  | c :: cs => if startsCommand startsBlank (c :: cs) then some (c :: cs) else fromCommand? cs

/-- What follows the last line feed among the blanks at the start. -/
def afterFeeds? : List Char → Option (List Char)
  | [] => none
  | c :: cs =>
    if Text.isBlank c then
      match afterFeeds? cs with
      | some rest => some rest
      | none => if c = '\n' then some cs else none
    else none

/-- What follows a double quote behind the blanks at the start. -/
def afterQuote? : List Char → Option (List Char)
  | [] => none
  | c :: cs =>
    if c = '"' then some cs
    else if Text.isBlank c then afterQuote? cs
    else none

theorem length_afterFeeds? {cs rest : List Char} (h : afterFeeds? cs = some rest) :
    rest.length < cs.length := by
  induction cs generalizing rest with
  | nil => simp [afterFeeds?] at h
  | cons c cs ih =>
    rw [afterFeeds?] at h
    split at h
    · split at h
      · next found =>
        cases h
        exact Nat.lt_succ_of_lt (ih found)
      · split at h
        · cases h
          simp
        · simp at h
    · simp at h

theorem length_afterQuote? {cs rest : List Char} (h : afterQuote? cs = some rest) :
    rest.length < cs.length := by
  induction cs generalizing rest with
  | nil => simp [afterQuote?] at h
  | cons c cs ih =>
    rw [afterQuote?] at h
    split at h
    · cases h
      simp
    · split at h
      · exact Nat.lt_succ_of_lt (ih h)
      · simp at h

/-- Puts `out` in the place of a mark together with what `skip?` finds behind it. -/
def replaceMarks (mark out : Char) (skip? : List Char → Option (List Char))
    (shorter : ∀ {cs rest}, skip? cs = some rest → rest.length < cs.length)
    (cs : List Char) : List Char :=
  match cs with
  | [] => []
  | c :: cs =>
    if c = mark then
      match h : skip? cs with
      | some rest =>
        have : rest.length < cs.length := shorter h
        out :: replaceMarks mark out skip? shorter rest
      | none => c :: replaceMarks mark out skip? shorter cs
    else c :: replaceMarks mark out skip? shorter cs
termination_by cs.length

/-- Joins lines that a mark continues: the mark, the blanks behind it and their last line
feed become one space. -/
def joinLines (mark : Char) (cs : List Char) : List Char :=
  replaceMarks mark ' ' afterFeeds? length_afterFeeds? cs

/-- Takes away the carets before double quotes, with the blanks between them. -/
def bareQuotes (cs : List Char) : List Char :=
  replaceMarks '^' '"' afterQuote? length_afterQuote? cs

/-- Takes away a last caret, with the blanks around it. -/
def dropLastCaret (cs : List Char) : List Char :=
  match Text.trimStart cs.reverse with
  | '^' :: rest => (Text.trimStart rest).reverse
  | _ => cs

/-- Puts a space in the place of each line end. -/
def feedsToSpaces : List Char → List Char
  | [] => []
  | '\x0d' :: '\n' :: cs => ' ' :: feedsToSpaces cs
  | c :: cs => (if c = '\n' then ' ' else c) :: feedsToSpaces cs

/-- Gives the command its plain name, if a space follows it. -/
def plainName (cs : List Char) : List Char :=
  match (afterWord? "curl.exe " cs).or (afterWord? "curl " cs) with
  | some rest => "curl ".toList ++ rest
  | none => cs

/-- The steps on the characters of a command. -/
def normalizeChars (cs : List Char) : List Char :=
  let cs := Text.trim cs
  let cs := (fromCommand? cs).getD cs
  plainName <| feedsToSpaces <| dropLastCaret <| bareQuotes <|
    joinLines '\x60' <| joinLines '^' <| joinLines '\\' cs

/-- A pasted command in one line. -/
def normalize (text : String) : String :=
  String.ofList (normalizeChars text.toList)

/-- Whether a text in one line is a command: its first word is the name of one. -/
def isCommand (line : String) : Bool :=
  startsCommand (fun rest => rest.isEmpty || startsBlank rest) line.toList

end Courier.Command
