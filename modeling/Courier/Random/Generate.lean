import Courier.Text.Blank
import Courier.Text.Casing
import Courier.Random.Source

/-! Made-up values: strings, names and e-mail addresses.

An address starts with the time that a clock shows, in seconds since 1970. -/

namespace Courier

namespace Clock

/-- The first second of the calendar. -/
def earliest : Int := -8334601228800

/-- The last one. -/
def latest : Int := 8210266876799

/-- The time of a clock that is set to `seconds`; outside the calendar it shows the start
of 1970. -/
def setTo (seconds : Int) : Int :=
  if earliest ≤ seconds ∧ seconds ≤ latest then seconds else 0

end Clock

namespace Random

/-- The characters of made-up strings. -/
def alphabet : List Char :=
  "abcdefghijklmnopqrstuvwxyz0123456789".toList

def names : List String :=
  ["Ava", "Liam", "Noah", "Mia", "Ethan", "Zoe", "Lucas", "Ivy", "Mason", "Luna", "Olivia",
    "Elijah", "Charlotte", "Amelia", "Harper", "Ella", "James", "Benjamin", "Henry", "Sophia",
    "Isabella", "Jack", "Leo", "Grace", "Aria", "Chloe", "Emma", "Scarlett", "Samuel", "Wyatt"]

/-- What made-up values take from their surroundings. -/
structure Options where
  /-- The time, in seconds since 1970. -/
  seconds : Int
  stringLength : Nat
  /-- The number of random characters before the `@` of an address. -/
  localPartLength : Nat
  /-- The domain of addresses that name none. -/
  domain : String

/-- Characters of the alphabet. -/
def characters : Nat → Source → List Char × Source
  | 0, s => ([], s)
  | n + 1, s =>
    let (c, s) := s.pick alphabet 'a'
    let (cs, s) := characters n s
    (c :: cs, s)

/-- A string of so many characters. -/
def string (length : Nat) (s : Source) : String × Source :=
  let (cs, s) := characters length s
  (String.ofList cs, s)

/-- A name, after something else if that is given. -/
def name (before : Option String) (s : Source) : String × Source :=
  let (picked, s) := s.pick names ""
  match before with
  | some before => (s!"{before}-{picked}", s)
  | none => (picked, s)

/-- A domain as it stands after the `@` of an address: without blank ends, and without
any `@` in front. -/
def bareDomain (domain : String) : String :=
  String.ofList ((Text.trim domain.toList).dropWhile (· = '@'))

/-- An e-mail address that starts with the time. -/
def email (seconds : Int) (length : Nat) (domain : String) (s : Source) : String × Source :=
  let (part, s) := string length s
  (s!"{seconds}{part}@{bareDomain domain}", s)

/-- The value for a list of a kind and an option. An option that is blank counts as none,
and so does the kind if there is no list. -/
def generate (arguments : List String) (options : Options) (s : Source) : String × Source :=
  let kind := (arguments[0]?.map (Text.lower ∘ Text.strip)).getD ""
  let option := (arguments[1]?.map Text.strip).filter (· ≠ "")
  if kind = "email" then
    email options.seconds options.localPartLength (option.getD options.domain) s
  else if kind = "name" then name option s
  else
    match option with
    | some given => (given, s)
    | none => string options.stringLength s

end Random

end Courier
