import Courier.Decimal.Binary64

/-! The shortest decimal text of a floating-point number.

Every real number near `x` rounds to `x`. Of the decimals among them that have the fewest
digits the nearest to `x` is written; if two are as near, the one with the even last
digit. -/

namespace Courier.Decimal

/-- The decimal digits of a natural number. -/
def digits (n : Nat) : List Char :=
  Nat.toDigits 10 n

/-- The reals that round to a number lie between `low` and `high`, and its own magnitude
is `middle`, all three in quarters of the last bit of the mantissa. -/
structure Interval where
  low : Nat
  middle : Nat
  high : Nat
  /-- Whether the two ends round to the number too. -/
  closed : Bool

/-- The interval of a magnitude. Below a power of two the numbers lie closer, so the lower
half of the interval is half as long there. -/
def interval (x : Binary64) : Interval :=
  let closer := x.mantissa = Binary64.leastMantissa ∧ Binary64.leastExponent < x.exponent
  { low := 4 * x.mantissa - if closer then 1 else 2
    middle := 4 * x.mantissa
    high := 4 * x.mantissa + 2
    closed := x.mantissa % 2 = 0 }

/-- The point `point · 10 ^ power` of a decimal grid and the numbers of an interval, in
whole units of the same size: how large a step of the grid and a quarter bit are. -/
def units (x : Binary64) (power : Int) : Nat × Nat :=
  let quarter := x.exponent - 2
  (Nat.pow 10 power.toNat * Nat.pow 2 (-quarter).toNat,
    Nat.pow 2 quarter.toNat * Nat.pow 10 (-power).toNat)

/-- The point of a decimal grid that rounds to `x` and is nearest to it, if one does. -/
def onGrid? (x : Binary64) (power : Int) : Option Nat :=
  let i := interval x
  let (step, quarter) := units x power
  let inside (point : Nat) : Bool :=
    let here := point * step
    if i.closed then i.low * quarter ≤ here ∧ here ≤ i.high * quarter
    else i.low * quarter < here ∧ here < i.high * quarter
  let middle := i.middle * quarter
  let below := middle / step
  match inside below, inside (below + 1) with
  | false, false => none
  | true, false => some below
  | false, true => some (below + 1)
  | true, true =>
    let down := middle - below * step
    let up := (below + 1) * step - middle
    if down < up then some below
    else if up < down then some (below + 1)
    else some (below + below % 2)

/-- The power of ten of the first digit of a magnitude that is not zero. -/
def leadingPower (x : Binary64) : Int :=
  -- Moved up by four hundred places, every magnitude has a whole part.
  let (num, den) := x.ratio
  ((digits (num * Nat.pow 10 400 / den)).length : Int) - 401

/-- The digits of the shortest decimal of a magnitude, and the power of ten of the first. -/
def shortest (x : Binary64) : List Char × Int :=
  let lead := leadingPower x
  -- Seventeen digits tell all numbers apart.
  let found := (List.range 17).findSome? fun (more : Nat) =>
    (onGrid? x (lead - more)).map fun point => (point, lead - (more : Int))
  match found with
  | none => (['0'], 0)
  | some (point, power) =>
    let ds := digits point
    let short := (ds.reverse.dropWhile (· == '0')).reverse
    (short, power + (ds.length - 1 : Nat))

/-- How a number is laid out in text. -/
structure Layout where
  /-- The least power of ten of a first digit that is written without an exponent. -/
  leastPositional : Int
  /-- The greatest one. -/
  greatestPositional : Int

/-- A magnitude without an exponent: a whole part, a point, and at least one digit. -/
def positional (ds : List Char) (lead : Int) : List Char :=
  if lead < 0 then
    ['0', '.'] ++ List.replicate ((-lead).toNat - 1) '0' ++ ds
  else
    let whole := lead.toNat + 1
    let front := ds.take whole ++ List.replicate (whole - ds.length) '0'
    let back := ds.drop whole
    front ++ '.' :: if back.isEmpty then ['0'] else back

/-- A magnitude with an exponent: one digit, the others after a point, and a signed power. -/
def scientific (ds : List Char) (lead : Int) : List Char :=
  let back := ds.drop 1
  let sign := if lead < 0 then '-' else '+'
  ds.take 1 ++ (if back.isEmpty then [] else '.' :: back) ++ 'e' :: sign :: digits lead.natAbs

/-- The text of a number. -/
def render (layout : Layout) (x : Binary64) : List Char :=
  let sign := if x.negative then ['-'] else []
  if x.mantissa = 0 then sign ++ ['0', '.', '0']
  else
    let (ds, lead) := shortest x
    if layout.leastPositional ≤ lead ∧ lead ≤ layout.greatestPositional then
      sign ++ positional ds lead
    else
      sign ++ scientific ds lead

end Courier.Decimal
