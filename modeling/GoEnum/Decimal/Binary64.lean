/-
  Binary floating-point numbers of 64 bits, as exact values.

  A finite number that is not negative is a significand below `2 ^ 53` times a
  power of two that is at least `2 ^ (-1074)` and at most `2 ^ 971`. `ofRatio?` rounds
  a ratio of natural numbers to the nearest of them, ties to the even
  significand, and the other operations are exact operations on ratios followed
  by that one rounding. Numbers beyond the greatest finite one have no value.

  `ofScaled?` is how a decimal spelling gets its number: from a significand and a
  power of ten, with a rounding at each step.
-/

namespace GoEnum.Decimal

/-- A power of two. -/
def twoTo (n : Nat) : Nat :=
  Nat.pow 2 n

/-- A power of ten. -/
def tenTo (n : Nat) : Nat :=
  Nat.pow 10 n

/-- The number `significand * 2 ^ exponent`. -/
structure Binary64 where
  /-- The digits of the number. -/
  significand : Nat
  /-- The power of two they are scaled by. -/
  exponent : Int
deriving Repr, DecidableEq

namespace Binary64

/-- The number of binary digits of a significand. -/
def precision : Nat := 53

/-- The least exponent. -/
def minExponent : Int := -1074

/-- The greatest exponent. -/
def maxExponent : Int := 971

/-- Zero. -/
def zero : Binary64 := ⟨0, minExponent⟩

/-- The quotient of `num / den` by `2 ^ exponent`, rounded to the nearest integer, ties to the
even one. -/
def roundQuotient (num den : Nat) (exponent : Int) : Nat :=
  let num := num * twoTo (-exponent).toNat
  let den := den * twoTo exponent.toNat
  let floor := num / den
  let twice := 2 * (num % den)
  if twice < den ∨ (twice = den ∧ floor % 2 = 0) then floor else floor + 1

/-- The exponent at which `num / den` has `precision` binary digits before the point, or the
least one if that is greater. -/
def exponentOf (num den : Nat) : Int :=
  let guess : Int := (num.log2 : Int) - (den.log2 : Int) - (precision - 1 : Nat)
  let full := num * twoTo (-guess).toNat / (den * twoTo guess.toNat) ≥ twoTo (precision - 1)
  max minExponent (if full then guess else guess - 1)

/-- The number nearest to `num / den`, if it is finite. -/
def ofRatio? (num den : Nat) : Option Binary64 :=
  if num = 0 then some zero
  else
    let exponent := exponentOf num den
    let significand := roundQuotient num den exponent
    let rounded : Binary64 :=
      if significand = twoTo precision then ⟨twoTo (precision - 1), exponent + 1⟩
      else ⟨significand, exponent⟩
    if rounded.exponent ≤ maxExponent then some rounded else none

/-- The numerator of a number as a ratio. -/
def numerator (x : Binary64) : Nat :=
  x.significand * twoTo x.exponent.toNat

/-- The denominator of a number as a ratio. -/
def denominator (x : Binary64) : Nat :=
  twoTo (-x.exponent).toNat

/-- The product of two numbers. -/
def mul? (x y : Binary64) : Option Binary64 :=
  ofRatio? (x.numerator * y.numerator) (x.denominator * y.denominator)

/-- The quotient of two numbers, the second of which is not zero. -/
def div? (x y : Binary64) : Option Binary64 :=
  ofRatio? (x.numerator * y.denominator) (x.denominator * y.numerator)

/-- The number nearest to a power of ten. -/
def powerOfTen? (exponent : Nat) : Option Binary64 :=
  ofRatio? (tenTo exponent) 1

/-- The greatest power of ten that is finite. -/
def maxPowerOfTen : Nat := 308

/-- The number divided by `10 ^ exponent`. A division by more than the greatest finite power of
ten goes by that power again and again, until nothing is left of the number. -/
def scaleDown? (x : Binary64) (exponent : Nat) : Option Binary64 :=
  if exponent ≤ maxPowerOfTen then (powerOfTen? exponent).bind x.div?
  else if x.significand = 0 then some x
  else ((powerOfTen? maxPowerOfTen).bind x.div?).bind
    fun y => scaleDown? y (exponent - maxPowerOfTen)
termination_by exponent
decreasing_by simp only [maxPowerOfTen] at *; omega

/-- The number for `significand * 10 ^ exponent`: the significand is rounded, and so is its
product or quotient with the power of ten. -/
def ofScaled? (significand : Nat) (exponent : Int) : Option Binary64 :=
  (ofRatio? significand 1).bind fun x =>
    if exponent < 0 then x.scaleDown? (-exponent).toNat
    else if exponent.toNat ≤ maxPowerOfTen then (powerOfTen? exponent.toNat).bind x.mul?
    else if x.significand = 0 then some x
    else none

end Binary64

end GoEnum.Decimal
