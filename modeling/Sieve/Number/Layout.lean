/-
This file writes double precision numbers as text. All layouts print the digits
of the shortest decimal; a layout settles the rest: which numbers are written
positionally, whether a whole number keeps a point, how an exponent is signed,
and which of two equally near decimals is taken.
-/

import Sieve.Number.Shortest
import Sieve.Text.Basic

namespace Sieve

/-- The choices of a written form for double precision numbers. -/
structure Layout where
  /-- Whether a number whose first digit stands at this power of ten is written
  positionally. -/
  isPositional : Int → Bool
  /-- Whether a whole number written positionally ends in a point and a zero. -/
  keepsPoint : Bool
  /-- Whether an exponent that is not negative has a sign. -/
  signsExponent : Bool
  /-- Whether the greater of two equally near decimals is taken, and not the even one. -/
  tieUp : Bool

namespace Layout

/-- A number in plain digits: never an exponent, and no point in a whole number. -/
def plain : Layout where
  isPositional := fun _ => true
  keepsPoint := false
  signsExponent := false
  tieUp := true

/-- A number shown for inspection: it keeps its point, and has an exponent below a ten
thousandth and from ten to the sixteenth on. -/
def shown : Layout where
  isPositional := fun power => decide (-4 ≤ power ∧ power ≤ 15)
  keepsPoint := true
  signsExponent := false
  tieUp := true

/-- A number in a JSON text: it keeps its point, and has an exponent, always with a sign, below
a hundred thousandth and from ten to the sixteenth on. -/
def json : Layout where
  isPositional := fun power => decide (-5 ≤ power ∧ power ≤ 15)
  keepsPoint := true
  signsExponent := true
  tieUp := false

/-- The positional form of digits whose first one stands at a power of ten. -/
def positional (layout : Layout) (digits : List Char) (power : Int) : List Char :=
  if power < 0 then
    '0' :: '.' :: List.replicate (-power - 1).toNat '0' ++ digits
  else
    let width := power.toNat + 1
    if digits.length ≤ width then
      digits ++ List.replicate (width - digits.length) '0' ++
        (if layout.keepsPoint then ['.', '0'] else [])
    else digits.take width ++ '.' :: digits.drop width

/-- The form with an exponent of digits whose first one stands at a power of ten. -/
def scientific (layout : Layout) (digits : List Char) (power : Int) : List Char :=
  let mantissa :=
    match digits with
    | first :: second :: rest => first :: '.' :: second :: rest
    | _ => digits
  let sign := if power < 0 then ['-'] else if layout.signsExponent then ['+'] else []
  mantissa ++ 'e' :: sign ++ Text.digitsOf power.natAbs

/-- The text of a magnitude that is finite and not zero. -/
def ofDecimal (layout : Layout) (decimal : Decimal) : List Char :=
  let digits := Text.digitsOf decimal.digits
  let power := decimal.leadingPower
  if layout.isPositional power then layout.positional digits power
  else layout.scientific digits power

/-- The text of a number. -/
def write (layout : Layout) (number : Double) : List Char :=
  if number.isNaN then ['N', 'a', 'N']
  else
    let sign := if number.negative then ['-'] else []
    let magnitude :=
      if number.isInfinite then ['i', 'n', 'f']
      else if number.isZero then layout.positional ['0'] 0
      else layout.ofDecimal (number.shortest layout.tieUp)
    sign ++ magnitude

end Layout

end Sieve
