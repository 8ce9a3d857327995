/-
This file finds the shortest decimal that reads back as a given double precision
number. A number owns the interval of reals that round to it; the decimals with
a given count of digits form a grid, and the first grid with a point in the
interval gives the digits. Only the two grid points beside the number need to be
looked at, because an interval that meets the grid contains one of them.
-/

import Sieve.Number.Double

namespace Sieve

/-- A positive decimal: `digits`, without a zero at the end, times a power of ten. -/
structure Decimal where
  /-- The digits, read as a natural number. -/
  digits : Nat
  /-- The power of ten of the last digit. -/
  power : Int
  deriving DecidableEq

namespace Decimal

/-- The count of decimal digits of a natural number; zero has one. -/
def digitCount (number : Nat) : Nat :=
  (Nat.toDigits 10 number).length

/-- The power of ten of the first digit. -/
def leadingPower (decimal : Decimal) : Int :=
  decimal.power + digitCount decimal.digits - 1

/-- A decimal without the zeros at its end, at most `count` of them. -/
def stripped : (count : Nat) → Nat → Int → Decimal
  | 0, digits, power => ⟨digits, power⟩
  | count + 1, digits, power =>
    if digits ≠ 0 ∧ digits % 10 = 0 then stripped count (digits / 10) (power + 1)
    else ⟨digits, power⟩

end Decimal

namespace Double

/-- The interval of reals that round to a finite number, in units of a quarter of its last
binary digit. -/
structure Interval where
  /-- The lower end. -/
  low : Nat
  /-- The number itself. -/
  middle : Nat
  /-- The upper end. -/
  high : Nat
  /-- Whether the ends belong to the interval: a tie goes to an even significand. -/
  closed : Bool

/-- The reals that round to a finite number that is not zero. Below a power of two the numbers
lie twice as close. -/
def interval (number : Double) : Interval :=
  let middle := 4 * number.significand
  let half := if number.magnitude % Nat.pow 2 52 = 0 ∧ Nat.pow 2 52 < number.magnitude then 1 else 2
  ⟨middle - half, middle, middle + 2, number.significand % 2 == 0⟩

/-- Whether `point`, a whole count of grid steps, lies in the interval when a grid step is
`step` and a quarter of the last binary digit is `unit`. -/
def Interval.contains (interval : Interval) (unit step point : Nat) : Bool :=
  let value := point * step
  if interval.closed then interval.low * unit ≤ value && value ≤ interval.high * unit
  else interval.low * unit < value && value < interval.high * unit

/-- The grid point that stands for the number on the grid of a given step, if one of the two
beside the number is in the interval: the nearer of them, and of two equally near ones the
greater if `tieUp` is set and the even one if not. -/
def Interval.gridPoint? (interval : Interval) (tieUp : Bool) (unit step : Nat) : Option Nat :=
  let value := interval.middle * unit
  let below := value / step
  let above := below + 1
  let rest := value % step
  let upper :=
    if 2 * rest < step then false
    else if step < 2 * rest then true
    else tieUp || below % 2 == 1
  match interval.contains unit step below, interval.contains unit step above with
  | true, true => some (if upper then above else below)
  | true, false => some below
  | false, true => some above
  | false, false => none

/-- The power of ten just above the magnitude of a finite number that is not zero: found by
going up from a power that is surely too low. -/
def decimalCeiling (above below : Nat) : Int :=
  let guess : Int := ((above.log2 : Int) - below.log2 - 1) * 1233 / 4096 - 1
  let exceeds (power : Int) : Bool :=
    if 0 ≤ power then above < below * Nat.pow 10 power.toNat
    else above * Nat.pow 10 (-power).toNat < below
  if exceeds guess then guess
  else if exceeds (guess + 1) then guess + 1
  else if exceeds (guess + 2) then guess + 2
  else guess + 3

/-- The first grid of at most seventeen digits with a point in the interval. -/
def shortestFrom (number : Double) (tieUp : Bool) (ceiling : Int) :
    (remaining count : Nat) → Decimal
  | 0, count => ⟨0, ceiling - count⟩
  | remaining + 1, count =>
    let power := ceiling - count
    let binary := number.exponent - 2
    let unit := (if 0 ≤ binary then Nat.pow 2 binary.toNat else 1) *
      (if 0 ≤ power then 1 else Nat.pow 10 (-power).toNat)
    let step := (if 0 ≤ power then Nat.pow 10 power.toNat else 1) *
      (if 0 ≤ binary then 1 else Nat.pow 2 (-binary).toNat)
    match number.interval.gridPoint? tieUp unit step with
    | some point => Decimal.stripped count point power
    | none => shortestFrom number tieUp ceiling remaining (count + 1)

/-- The shortest decimal that reads back as the magnitude of a finite number that is not
zero, and of those the nearest to it. -/
def shortest (number : Double) (tieUp : Bool) : Decimal :=
  let (above, below) := number.ratio
  shortestFrom number tieUp (decimalCeiling above below) 17 1

end Double

end Sieve
