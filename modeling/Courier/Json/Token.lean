import Courier.Text.Digits
import Courier.Json.Number

/-! The tokens of JSON text.

Cutting a text into tokens drops the blanks between them and reads every string and
number. A string with half a surrogate pair and a number that is too large are tokens
still, but ones without a value: such a token can only be skipped. -/

namespace Courier.Json

inductive Token where
  | openBracket
  | closeBracket
  | openBrace
  | closeBrace
  | comma
  | colon
  | null
  | bool (b : Bool)
  | number (n : Option Number)
  | string (s : Option String)
  deriving DecidableEq, Repr

namespace Token

/-- The characters between tokens. -/
def isSpace (c : Char) : Bool :=
  c = ' ' || c = '\t' || c = '\n' || c = '\x0d'

/-- A piece of a string: a character, or a unit of sixteen bits written as an escape. -/
inductive Piece where
  | char (c : Char)
  | unit (n : Nat)
  deriving DecidableEq, Repr

/-- The character that a backslash and one letter write. -/
def escaped? : Char → Option Char
  | '"' => some '"'
  | '\\' => some '\\'
  | '/' => some '/'
  | 'b' => some '\x08'
  | 'f' => some '\x0c'
  | 'n' => some '\n'
  | 'r' => some '\x0d'
  | 't' => some '\t'
  | _ => none

/-- The unit that four digits write. -/
def unit? (a b c d : Char) : Option Nat := do
  let a ← Hex.value? a
  let b ← Hex.value? b
  let c ← Hex.value? c
  let d ← Hex.value? d
  return ((a * 16 + b) * 16 + c) * 16 + d

/-- The pieces of a string after its opening quote, and what follows the closing one. -/
def readPieces? : List Char → Option (List Piece × List Char)
  | [] => none
  | '"' :: cs => some ([], cs)
  | '\\' :: 'u' :: a :: b :: c :: d :: cs =>
    match unit? a b c d, readPieces? cs with
    | some n, some (ps, rest) => some (.unit n :: ps, rest)
    | _, _ => none
  | '\\' :: e :: cs =>
    match escaped? e, readPieces? cs with
    | some c, some (ps, rest) => some (.char c :: ps, rest)
    | _, _ => none
  | c :: cs =>
    if c.toNat < 0x20 ∨ c = '\\' then none
    else
      match readPieces? cs with
      | some (ps, rest) => some (.char c :: ps, rest)
      | none => none

/-- The characters that pieces write: a high and a low surrogate together make one, and
neither stands alone. -/
def joinPieces? : List Piece → Option (List Char)
  | [] => some []
  | .char c :: ps => (joinPieces? ps).map (c :: ·)
  | .unit high :: .unit low :: ps =>
    if 0xD800 ≤ high ∧ high ≤ 0xDBFF then
      if 0xDC00 ≤ low ∧ low ≤ 0xDFFF then
        let c := Char.ofNat (0x10000 + (high - 0xD800) * 0x400 + (low - 0xDC00))
        (joinPieces? ps).map (c :: ·)
      else none
    else if 0xDC00 ≤ high ∧ high ≤ 0xDFFF then none
    else (joinPieces? (.unit low :: ps)).map (Char.ofNat high :: ·)
  | .unit n :: ps =>
    if 0xD800 ≤ n ∧ n ≤ 0xDFFF then none
    else (joinPieces? ps).map (Char.ofNat n :: ·)

/-- A word that is a token by itself, if the text starts with it. -/
def word? (cs : List Char) : Option (Token × List Char) :=
  if "null".toList.isPrefixOf cs then some (.null, cs.drop 4)
  else if "true".toList.isPrefixOf cs then some (.bool true, cs.drop 4)
  else if "false".toList.isPrefixOf cs then some (.bool false, cs.drop 5)
  else none

/-- The token that starts with the character `c`, and what follows it. -/
def read? (c : Char) (cs : List Char) : Option (Token × List Char) :=
  match c with
  | '[' => some (.openBracket, cs)
  | ']' => some (.closeBracket, cs)
  | '{' => some (.openBrace, cs)
  | '}' => some (.closeBrace, cs)
  | ',' => some (.comma, cs)
  | ':' => some (.colon, cs)
  | '"' => (readPieces? cs).map fun (ps, rest) =>
    (.string ((joinPieces? ps).map String.ofList), rest)
  | c =>
    if c = '-' ∨ c.isDigit then
      (Numeral.read? (c :: cs)).map fun (n, rest) => (.number n.value?, rest)
    else word? (c :: cs)

/-! ### Reading makes the text shorter -/

theorem length_readPieces? {cs : List Char} {r : List Piece × List Char}
    (h : readPieces? cs = some r) : r.2.length < cs.length := by
  fun_induction readPieces? cs generalizing r <;> simp_all <;>
    first
      | (subst h; simp; done)
      | (subst h; simp; omega)

theorem length_word? {cs : List Char} {r : Token × List Char} (h : word? cs = some r) :
    r.2.length < cs.length := by
  have shorter (word : String) (n : Nat) (hn : 0 < n ∧ n ≤ word.toList.length)
      (start : word.toList.isPrefixOf cs = true) : (cs.drop n).length < cs.length := by
    have := (List.isPrefixOf_iff_prefix.1 start).length_le
    rw [List.length_drop]
    omega
  unfold word? at h
  split at h
  · next start =>
    cases h
    exact shorter "null" 4 (by decide) start
  · split at h
    · next start =>
      cases h
      exact shorter "true" 4 (by decide) start
    · split at h
      · next start =>
        cases h
        exact shorter "false" 5 (by decide) start
      · simp at h

theorem length_read? {c : Char} {cs : List Char} {r : Token × List Char}
    (h : read? c cs = some r) : r.2.length ≤ cs.length := by
  unfold read? at h
  split at h
  case h_7 =>
    obtain ⟨p, hp, rfl⟩ := Option.map_eq_some_iff.1 h
    exact Nat.le_of_lt (length_readPieces? hp)
  case h_8 =>
    split at h
    · obtain ⟨p, hp, rfl⟩ := Option.map_eq_some_iff.1 h
      exact Nat.le_of_lt_succ (Numeral.length_read? hp)
    · exact Nat.le_of_lt_succ (length_word? h)
  all_goals
    cases h
    exact Nat.le_refl _

/-- The tokens of a text, unless some part of it is none. -/
def all? (cs : List Char) : Option (List Token) :=
  match cs with
  | [] => some []
  | c :: cs =>
    if isSpace c then all? cs
    else
      match h : read? c cs with
      | none => none
      | some (token, rest) =>
        have := length_read? h
        (all? rest).map (token :: ·)
termination_by cs.length
decreasing_by all_goals simp_all; try omega

end Token

end Courier.Json
