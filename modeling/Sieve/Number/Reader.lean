/-
This file reads numbers that a text writes in full: integers with an optional
sign that lie in a range, and double precision numbers in positional form or
with an exponent, rounded once from the exact decimal. No blanks are skipped.
-/

import Sieve.Number.Double
import Sieve.Text.Basic

namespace Sieve

namespace Text

/-- An optional sign before a text: whether it is a minus, and the text after it. -/
def splitSign : List Char → Bool × List Char
  | '-' :: rest => (true, rest)
  | '+' :: rest => (false, rest)
  | rest => (false, rest)

/-- The integer that a text writes with an optional sign and at least one digit. -/
def readInt? (text : List Char) : Option Int :=
  let (negative, digits) := splitSign text
  if digits.isEmpty || !digits.all isDigit then none
  else
    let magnitude : Int := digitsValue 0 digits
    some (if negative then -magnitude else magnitude)

/-- The integer that a text writes, if it lies between two bounds. -/
def readIntBetween? (low high : Int) (text : List Char) : Option Int :=
  (readInt? text).filter fun integer => decide (low ≤ integer ∧ integer ≤ high)

/-- The text of an integer: its digits, after a minus if it is negative. -/
def writeInt (integer : Int) : List Char :=
  if integer < 0 then '-' :: digitsOf integer.natAbs else digitsOf integer.natAbs

/-- The sixty-four bit integer that a text writes. -/
def readInt64? (text : List Char) : Option Int64 :=
  (readIntBetween? Int64.minValue.toInt Int64.maxValue.toInt text).map Int64.ofInt

/-- The thirty-two bit integer that a text writes. -/
def readInt32? (text : List Char) : Option Int :=
  readIntBetween? (-2147483648) 2147483647 text

end Text

namespace Double

/-- The exponent at the end of a number: a mark, an optional sign and at least one digit. A
text without the mark has the exponent zero. -/
def readExponent? : List Char → Option Int
  | [] => some 0
  | mark :: rest => if mark = 'e' ∨ mark = 'E' then Text.readInt? rest else none

/-- The magnitude that a text writes in digits: at least one digit, a point anywhere among
them or beside them, and an optional exponent. -/
def readDigits? (negative : Bool) (text : List Char) : Option Double := do
  let whole := text.takeWhile Text.isDigit
  let (fraction, tail) :=
    match text.dropWhile Text.isDigit with
    | '.' :: rest => (rest.takeWhile Text.isDigit, rest.dropWhile Text.isDigit)
    | rest => ([], rest)
  if whole.isEmpty && fraction.isEmpty then none
  else
    let power ← readExponent? tail
    let digits := Text.digitsValue (Text.digitsValue 0 whole) fraction
    some (ofDecimal negative digits (power - fraction.length))

/-- The number that a text writes: an optional sign, then the name of an infinity or of no
number in any case, or digits. A number too great becomes an infinity and one too small a
zero. -/
def read? (text : List Char) : Option Double :=
  let (negative, rest) := Text.splitSign text
  let name := String.ofList (rest.map Text.lowerAscii)
  if name = "inf" ∨ name = "infinity" then some (infinity negative)
  else if name = "nan" then some (if negative then nan.negate else nan)
  else readDigits? negative rest

end Double

end Sieve
