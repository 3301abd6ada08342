import Courier.Unicode.Canonical
import Courier.Unicode.Mapping
import Courier.Url.Punycode

/-! International domain names, and their form in ASCII.

A name is mapped character by character and brought into normalization form C. Then each
of its labels is checked, and the ones outside ASCII are written in Punycode behind the
mark `xn--`. Empty labels, hyphens and lengths are not checked. -/

namespace Courier.Url.DomainName

def isAscii (c : Char) : Bool :=
  c.toNat < 0x80

/-- The mark of a label in Punycode. -/
def mark : List Char :=
  "xn--".toList

/-- A name with its characters mapped, unless one of them is refused. -/
def map? : List Char → Option (List Char)
  | [] => some []
  | c :: cs =>
    match Unicode.Mapping.outcome c with
    | .keep => (map? cs).map (c :: ·)
    | .refuse => none
    | .replace text => (map? cs).map (text ++ ·)

/-! ### Joiners -/

def nonJoiner : Char := '\u200c'
def joiner : Char := '\u200d'

/-- The combining class of viramas. -/
def viramaClass : Nat := 9

/-- The joining type of the first character that is not transparent. -/
def firstJoining (cs : List Char) : Unicode.Joining :=
  match cs.find? (Unicode.joining · ≠ .transparent) with
  | some c => Unicode.joining c
  | none => .none

/-- Whether joiners stand only where they mean something: behind a virama, and the
non-joiner also between characters that would join. `before` is read backwards. -/
def joinersFit (before : List Char) : List Char → Bool
  | [] => true
  | c :: cs =>
    let behindVirama := match before with
      | [] => false
      | b :: _ => Unicode.combiningClass b = viramaClass
    let fits :=
      if c = joiner then behindVirama
      else if c = nonJoiner then
        behindVirama
          || ([Unicode.Joining.left, .dual].contains (firstJoining before)
            && [Unicode.Joining.right, .dual].contains (firstJoining cs))
      else true
    fits && joinersFit (c :: before) cs

/-! ### Directions -/

/-- Whether a character makes its whole name one with two directions. -/
def isRightToLeft (c : Char) : Bool :=
  [Unicode.Direction.rightToLeft, .arabicLetter, .arabicNumber].contains (Unicode.direction c)

/-- The last direction that is not the one of a nonspacing mark. -/
def lastDirection (ds : List Unicode.Direction) : Option Unicode.Direction :=
  ds.reverse.find? (· ≠ .nonspacingMark)

/-- Whether a label of a name with two directions keeps to one direction. -/
def keepsDirection (label : List Char) : Bool :=
  let ds := label.map Unicode.direction
  let neutral : List Unicode.Direction :=
    [.europeanSeparator, .commonSeparator, .europeanTerminator, .otherNeutral,
      .boundaryNeutral, .nonspacingMark]
  match ds with
  | [] => true
  | .rightToLeft :: _ | .arabicLetter :: _ =>
    let allowed : List Unicode.Direction :=
      .rightToLeft :: .arabicLetter :: .arabicNumber :: .europeanNumber :: neutral
    let ends : List Unicode.Direction :=
      [.rightToLeft, .arabicLetter, .europeanNumber, .arabicNumber]
    ds.all allowed.contains
      && (lastDirection ds).any ends.contains
      && !(ds.contains .europeanNumber && ds.contains .arabicNumber)
  | .leftToRight :: _ =>
    let allowed : List Unicode.Direction := .leftToRight :: .europeanNumber :: neutral
    ds.all allowed.contains
      && (lastDirection ds).any [Unicode.Direction.leftToRight, .europeanNumber].contains
  | _ => false

/-! ### Labels -/

/-- How many characters a label outside ASCII may have. Punycode takes time that grows with
the square of the length, so there is a limit for its sake. -/
def longestLabel : Nat := 1000

/-- How many characters may follow the mark of a label in Punycode. -/
def longestCode : Nat := 2000

/-- Whether a label outside ASCII may stand in a name. -/
def isValidLabel (label : List Char) : Bool :=
  label.length ≤ longestLabel
    && Unicode.Canonical.normalize label = label
    && !mark.isPrefixOf label
    && !(label.head?.any Unicode.isMark)
    && label.all Unicode.Mapping.isValid
    && joinersFit [] label

/-- A label read and checked: the text that it stands for, and its form in ASCII. -/
def readLabel? (label : List Char) : Option (List Char × List Char) :=
  if mark.isPrefixOf label then
    let code := label.drop mark.length
    match if longestCode < code.length then none else Punycode.decode? code with
    | none => none
    | some text =>
      -- A label in Punycode that needs none is refused.
      if text.all isAscii || !isValidLabel text then none else some (text, label)
  else if label.all isAscii then some (label, label)
  else if isValidLabel label then some (label, mark ++ Punycode.encode label)
  else none

/-- The form in ASCII of a name, unless it is not a name. -/
def toAscii? (name : List Char) : Option (List Char) := do
  let mapped ← map? name
  let labels ← (Text.splitOn '.' (Unicode.Canonical.normalize mapped)).mapM readLabel?
  let texts := labels.map (·.1)
  if texts.any (·.any isRightToLeft) && !texts.all keepsDirection then none
  else return ['.'].intercalate (labels.map (·.2))

end Courier.Url.DomainName
