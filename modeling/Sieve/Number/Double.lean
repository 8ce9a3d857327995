/-
This file defines double precision numbers by their sixty-four bits, so that a
number is decoded, compared and rounded in exact integer arithmetic. A finite
number is a significand times a power of two; `ofRatio` is the number nearest to
a fraction, and every other way to make one goes through it.
-/

namespace Sieve

/-- A double precision number, given by its bits: a sign, eleven bits of exponent and
fifty-two bits of fraction. -/
structure Double where
  /-- The bits, the sign highest. -/
  bits : UInt64
  deriving DecidableEq

namespace Double

/-! ### Parts of a number -/

/-- The bits without the sign, read as a natural number. They grow with the magnitude. -/
def magnitude (number : Double) : Nat :=
  number.bits.toNat % Nat.pow 2 63

/-- Whether the sign bit is set; the zeros have a sign too. -/
def negative (number : Double) : Bool :=
  decide (Nat.pow 2 63 ≤ number.bits.toNat)

/-- The magnitude of the infinities: above every finite number and below all that is no
number. -/
def infinityMagnitude : Nat :=
  2047 * Nat.pow 2 52

/-- Whether the bits stand for no number at all. -/
def isNaN (number : Double) : Bool :=
  decide (infinityMagnitude < number.magnitude)

/-- Whether the number is one of the two infinities. -/
def isInfinite (number : Double) : Bool :=
  number.magnitude == infinityMagnitude

/-- Whether the bits stand for a number that is no infinity. -/
def isFinite (number : Double) : Bool :=
  decide (number.magnitude < infinityMagnitude)

/-- Whether the number is one of the two zeros. -/
def isZero (number : Double) : Bool :=
  number.magnitude == 0

/-- The whole number that, times the power of two of `exponent`, is the magnitude of a finite
number. -/
def significand (number : Double) : Nat :=
  if number.magnitude < Nat.pow 2 52 then number.magnitude
  else Nat.pow 2 52 + number.magnitude % Nat.pow 2 52

/-- The power of two that goes with the significand. -/
def exponent (number : Double) : Int :=
  if number.magnitude < Nat.pow 2 52 then -1074
  else (number.magnitude / Nat.pow 2 52 : Nat) - 1075

/-- The number with a given sign and magnitude. -/
def ofMagnitude (negative : Bool) (magnitude : Nat) : Double :=
  ⟨UInt64.ofNat (if negative then magnitude + Nat.pow 2 63 else magnitude)⟩

/-- The number with the other sign. -/
def negate (number : Double) : Double :=
  ofMagnitude (!number.negative) number.magnitude

/-- The zero with a given sign. -/
def zero (negative : Bool) : Double :=
  ofMagnitude negative 0

/-- The infinity with a given sign. -/
def infinity (negative : Bool) : Double :=
  ofMagnitude negative infinityMagnitude

/-- The bits that stand for no number. -/
def nan : Double :=
  ofMagnitude false (infinityMagnitude + Nat.pow 2 51)

/-! ### Order -/

/-- The place of a number on the number line. Both zeros have the same place. -/
def place (number : Double) : Int :=
  if number.negative then -(number.magnitude : Int) else number.magnitude

/-- The order of two numbers; what is no number has no order. -/
def compare? (left right : Double) : Option Ordering :=
  if left.isNaN || right.isNaN then none else some (compare left.place right.place)

/-! ### Rounding -/

/-- The whole number nearest to a fraction, the even one of two. -/
def nearest (numerator denominator : Nat) : Nat :=
  let whole := numerator / denominator
  let rest := numerator % denominator
  if 2 * rest < denominator then whole
  else if denominator < 2 * rest then whole + 1
  else whole + whole % 2

/-- The fraction that is `numerator / denominator` divided by a power of two. -/
def scaled (numerator denominator : Nat) (power : Int) : Nat × Nat :=
  if 0 ≤ power then (numerator, denominator * Nat.pow 2 power.toNat)
  else (numerator * Nat.pow 2 (-power).toNat, denominator)

/-- The power of two under which a fraction has a whole part of fifty-three binary digits, or
the least power of all if the fraction is too small for that. -/
def ratioExponent (numerator denominator : Nat) : Int :=
  let guess : Int := (numerator.log2 : Int) - denominator.log2 - 53
  let (above, below) := scaled numerator denominator guess
  max (if Nat.pow 2 53 ≤ above / below then guess + 1 else guess) (-1074)

/-- The number nearest to a fraction, the one with an even significand of two; a fraction
beyond the greatest finite number becomes an infinity. -/
def ofRatio (negative : Bool) (numerator denominator : Nat) : Double :=
  if numerator = 0 then zero negative
  else
    let power := ratioExponent numerator denominator
    let (above, below) := scaled numerator denominator power
    let magnitude := (power + 1074).toNat * Nat.pow 2 52 + nearest above below
    ofMagnitude negative (min magnitude infinityMagnitude)

/-- The number nearest to an integer. -/
def ofInt (integer : Int) : Double :=
  ofRatio (decide (integer < 0)) integer.natAbs 1

/-- The number nearest to `digits * 10 ^ power`. Powers so high or so low that the result is an
infinity or a zero whatever the digits are settled without computing them. -/
def ofDecimal (negative : Bool) (digits : Nat) (power : Int) : Double :=
  if digits = 0 then zero negative
  else if 310 < power then infinity negative
  else if (digits.log2 / 3 + 1 : Nat) + power < -330 then zero negative
  else if 0 ≤ power then ofRatio negative (digits * Nat.pow 10 power.toNat) 1
  else ofRatio negative digits (Nat.pow 10 (-power).toNat)

/-! ### Products and quotients of finite numbers -/

/-- The magnitude of a finite number as a fraction. -/
def ratio (number : Double) : Nat × Nat :=
  if 0 ≤ number.exponent then (number.significand * Nat.pow 2 number.exponent.toNat, 1)
  else (number.significand, Nat.pow 2 (-number.exponent).toNat)

/-- The number nearest to the product of two finite numbers. -/
def multiply (left right : Double) : Double :=
  let (above, below) := left.ratio
  let (above', below') := right.ratio
  ofRatio (left.negative != right.negative) (above * above') (below * below')

/-- The number nearest to the quotient of two finite numbers, the second not zero. -/
def divide (left right : Double) : Double :=
  let (above, below) := left.ratio
  let (above', below') := right.ratio
  ofRatio (left.negative != right.negative) (above * below') (below * above')

end Double

end Sieve
