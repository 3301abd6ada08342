import Courier.Decimal.Shortest
import Courier.Json.Basic

/-! Numbers as JSON writes them.

A numeral without a fraction and an exponent stands for a whole number if sixty-four bits
hold it. Every other numeral stands for a floating-point number; only the digits that
sixty-four bits hold count for it. -/

namespace Courier.Json

/-- What a number looks like in a text. -/
structure Numeral where
  negative : Bool
  whole : List Char
  /-- The digits after a point; there is no point if there are none. -/
  fraction : List Char
  /-- The sign and the digits of an exponent. -/
  exponent : Option (Bool × List Char)
  deriving DecidableEq, Repr

namespace Numeral

def digitValue (c : Char) : Nat :=
  c.toNat - 0x30

/-- The number that digits write. -/
def natOf (ds : List Char) : Nat :=
  ds.foldl (fun n c => n * 10 + digitValue c) 0

/-- Takes up digits as long as sixty-four bits hold the number, and gives the number with
the digits that are left. -/
def absorb (n : Nat) : List Char → Nat × List Char
  | [] => (n, [])
  | c :: cs =>
    let m := n * 10 + digitValue c
    if m < UInt64.size then absorb m cs else (n, c :: cs)

/-- The power of ten that an exponent writes. -/
def powerOf : Option (Bool × List Char) → Int
  | none => 0
  | some (negative, ds) => if negative then -(natOf ds : Int) else natOf ds

/-- Whether a numeral has neither a fraction nor an exponent. -/
def isWhole (n : Numeral) : Bool :=
  n.fraction.isEmpty && n.exponent.isNone

/-- The number that a numeral stands for, unless it is too large for one. -/
def value? (n : Numeral) : Option Number :=
  let (front, dropped) := absorb 0 n.whole
  if n.isWhole ∧ dropped = [] ∧ ¬n.negative then some (.whole front)
  else if n.isWhole ∧ dropped = [] ∧ 0 < front ∧ 2 * front ≤ UInt64.size then some (.whole (-front))
  else
    let (significand, unused) := absorb front n.fraction
    let used := n.fraction.length - unused.length
    let power := (dropped.length : Int) - used + powerOf n.exponent
    (Binary64.ofDecimal? n.negative significand power).map .real

/-- Digits from the start of a text. -/
def readDigits (cs : List Char) : List Char × List Char :=
  (cs.takeWhile Char.isDigit, cs.dropWhile Char.isDigit)

/-- The digits after a point, if a point follows; a point needs a digit after it. -/
def readFraction? : List Char → Option (List Char × List Char)
  | '.' :: cs =>
    let (ds, rest) := readDigits cs
    if ds.isEmpty then none else some (ds, rest)
  | cs => some ([], cs)

/-- The sign before the digits of an exponent. -/
def readSign : List Char → Bool × List Char
  | '-' :: cs => (true, cs)
  | '+' :: cs => (false, cs)
  | cs => (false, cs)

/-- An exponent, if one follows; it needs a digit. -/
def readExponent? : List Char → Option (Option (Bool × List Char) × List Char)
  | c :: cs =>
    if c = 'e' ∨ c = 'E' then
      let (negative, cs) := readSign cs
      let (ds, rest) := readDigits cs
      if ds.isEmpty then none else some (some (negative, ds), rest)
    else some (none, c :: cs)
  | [] => some (none, [])

/-- The whole part of a number: a zero stands alone. -/
def readWhole? : List Char → Option (List Char × List Char)
  | '0' :: cs => some (['0'], cs)
  | cs =>
    let (ds, rest) := readDigits cs
    if ds.isEmpty then none else some (ds, rest)

/-- A numeral after its sign, and what follows it. -/
def readUnsigned? (negative : Bool) (cs : List Char) : Option (Numeral × List Char) := do
  let (whole, cs) ← readWhole? cs
  let (fraction, cs) ← readFraction? cs
  let (exponent, cs) ← readExponent? cs
  return (⟨negative, whole, fraction, exponent⟩, cs)

/-- A numeral at the start of a text, and what follows it. -/
def read? : List Char → Option (Numeral × List Char)
  | '-' :: cs => readUnsigned? true cs
  | cs => readUnsigned? false cs

/-! ### Reading a numeral makes the text shorter -/

theorem length_readDigits (cs : List Char) : (readDigits cs).2.length ≤ cs.length :=
  (List.dropWhile_suffix _).length_le

theorem length_readDigits_lt {cs : List Char} (h : (readDigits cs).1.isEmpty = false) :
    (readDigits cs).2.length < cs.length := by
  have both : (readDigits cs).1 ++ (readDigits cs).2 = cs := List.takeWhile_append_dropWhile
  have sum := congrArg List.length both
  rw [List.length_append] at sum
  have : (readDigits cs).1 ≠ [] := by simpa using h
  have := List.length_pos_iff.2 this
  omega

theorem length_readSign (cs : List Char) : (readSign cs).2.length ≤ cs.length := by
  unfold readSign
  split <;> simp

theorem length_readFraction? {cs : List Char} {r : List Char × List Char}
    (h : readFraction? cs = some r) : r.2.length ≤ cs.length := by
  unfold readFraction? at h
  split at h
  · next rest =>
    have := length_readDigits rest
    simp only at h
    split at h
    · simp at h
    · cases h
      simp only [List.length_cons]
      omega
  · cases h
    exact Nat.le_refl _

theorem length_readExponent? {cs : List Char} {r : Option (Bool × List Char) × List Char}
    (h : readExponent? cs = some r) : r.2.length ≤ cs.length := by
  unfold readExponent? at h
  split at h
  · next c rest =>
    have sign := length_readSign rest
    have digits := length_readDigits (readSign rest).2
    split at h
    · simp only at h
      split at h
      · simp at h
      · cases h
        simp only [List.length_cons]
        omega
    · cases h
      exact Nat.le_refl _
  · cases h
    exact Nat.le_refl _

theorem length_readWhole? {cs : List Char} {r : List Char × List Char}
    (h : readWhole? cs = some r) : r.2.length < cs.length := by
  unfold readWhole? at h
  split at h
  · cases h
    simp
  · next cs _ =>
    simp only at h
    split at h
    · simp at h
    · next digit =>
      cases h
      exact length_readDigits_lt (by simpa using digit)

theorem length_readUnsigned? {negative : Bool} {cs : List Char} {r : Numeral × List Char}
    (h : readUnsigned? negative cs = some r) : r.2.length < cs.length := by
  simp only [readUnsigned?, Option.bind_eq_bind, Option.bind_eq_some_iff, Option.pure_def] at h
  obtain ⟨a, ha, b, hb, c, hc, h⟩ := h
  cases h
  have := length_readWhole? ha
  have := length_readFraction? hb
  have := length_readExponent? hc
  simp only
  omega

theorem length_read? {cs : List Char} {r : Numeral × List Char} (h : read? cs = some r) :
    r.2.length < cs.length := by
  unfold read? at h
  split at h
  · have := length_readUnsigned? h
    simp only [List.length_cons]
    omega
  · exact length_readUnsigned? h

end Numeral

/-- Numbers between a hundred-thousandth and ten to the sixteenth need no exponent. -/
def layout : Decimal.Layout :=
  ⟨-5, 15⟩

/-- A whole number in decimal. -/
def renderInt (n : Int) : List Char :=
  (if n < 0 then ['-'] else []) ++ Decimal.digits n.natAbs

/-- The text of a number. -/
def Number.render : Number → List Char
  | .whole n => renderInt n
  | .real x => Decimal.render layout x

end Courier.Json
