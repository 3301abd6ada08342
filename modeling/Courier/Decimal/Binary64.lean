/-! Floating-point numbers of sixty-four bits, without infinities and not-a-numbers.

A number is a sign, a whole mantissa and a power of two. Rounding is exact: a quotient of
natural numbers goes to the nearest such number, and a tie to the even mantissa. -/

namespace Courier

/-- The number `± mantissa · 2 ^ exponent`. A number as `round?` makes it has a mantissa
of fifty-three bits, unless its exponent is the least one; zero has exponent zero. -/
structure Binary64 where
  negative : Bool
  mantissa : Nat
  exponent : Int
  deriving DecidableEq, Repr, Inhabited

namespace Binary64

/-- The least mantissa of fifty-three bits. -/
def leastMantissa : Nat := 0x10000000000000

/-- The exponent of the smallest numbers. -/
def leastExponent : Int := -1074

/-- The exponent of the largest numbers. -/
def greatestExponent : Int := 971

/-- The quotient of two numbers, to the nearest whole number and to the even one of two. -/
def roundDiv (num den : Nat) : Nat :=
  let quotient := num / den
  let rest := num % den
  if 2 * rest < den then quotient
  else if den < 2 * rest then quotient + 1
  else quotient + quotient % 2

/-- The quotient `num / den` divided by `2 ^ exponent`, as a quotient again. -/
def scale (num den : Nat) (exponent : Int) : Nat × Nat :=
  (num * Nat.pow 2 (-exponent).toNat, den * Nat.pow 2 exponent.toNat)

/-- The number nearest to a quotient, unless it is too large for one. -/
def round? (negative : Bool) (num den : Nat) : Option Binary64 :=
  if num = 0 then some ⟨negative, 0, 0⟩
  else
    -- The mantissa has at most one bit less than this exponent promises.
    let guess : Int := (num.log2 : Int) - den.log2 - 52
    let (n, d) := scale num den guess
    let exponent := max (if n < d * leastMantissa then guess - 1 else guess) leastExponent
    let (n, d) := scale num den exponent
    let mantissa := roundDiv n d
    if mantissa = 0 then some ⟨negative, 0, 0⟩
    else if mantissa < 2 * leastMantissa then
      if exponent ≤ greatestExponent then some ⟨negative, mantissa, exponent⟩ else none
    else
      -- Rounding up filled one bit more.
      if exponent < greatestExponent then some ⟨negative, leastMantissa, exponent + 1⟩ else none

/-- The magnitude as a quotient. -/
def ratio (x : Binary64) : Nat × Nat :=
  scale x.mantissa 1 (-x.exponent)

/-- The rounded product. -/
def mul? (x y : Binary64) : Option Binary64 :=
  let (a, b) := x.ratio
  let (c, d) := y.ratio
  round? (x.negative != y.negative) (a * c) (b * d)

/-- The rounded quotient by a number that is not zero. -/
def div? (x y : Binary64) : Option Binary64 :=
  let (a, b) := x.ratio
  let (c, d) := y.ratio
  round? (x.negative != y.negative) (a * d) (b * c)

/-- The number nearest to a power of ten. -/
def powerOfTen? (power : Nat) : Option Binary64 :=
  round? false (Nat.pow 10 power) 1

/-- The largest power of ten that a number holds. -/
def greatestPower : Nat := 308

/-- Divides by a power of ten, with one rounding of the power and one of the result. A
power that no number holds goes in several divisions. -/
def divideDecimal? (x : Binary64) (power : Nat) : Option Binary64 :=
  if x.mantissa = 0 then some x
  else if power ≤ greatestPower then (powerOfTen? power).bind x.div?
  else ((powerOfTen? greatestPower).bind x.div?).bind (divideDecimal? · (power - greatestPower))
termination_by power
decreasing_by simp only [greatestPower] at *; omega

/-- Multiplies by a power of ten, with one rounding of the power and one of the result. A
power that no number holds is too much for every number but zero. -/
def multiplyDecimal? (x : Binary64) (power : Nat) : Option Binary64 :=
  if x.mantissa = 0 then some x
  else if power ≤ greatestPower then (powerOfTen? power).bind x.mul?
  else none

/-- The number that a whole significand and a power of ten write. -/
def ofDecimal? (negative : Bool) (significand : Nat) (power : Int) : Option Binary64 :=
  (round? negative significand 1).bind fun x =>
    if 0 ≤ power then multiplyDecimal? x power.toNat else divideDecimal? x (-power).toNat

end Binary64

end Courier
