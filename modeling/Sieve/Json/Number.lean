/-
This file reads the numbers of JSON texts, in two steps. A numeral is a number as
it is written; any number may be written. The value of a numeral is settled
after that: a number without fraction and exponent that fits a word of 64 bits
is kept exactly. For any other number the digits are gathered into one word for
as long as they fit, the digits after that only count as places, and the result
is that word, rounded, times or divided by a power of ten, rounded again. A
number too great for double precision has no value, and one too small is a zero.
-/

import Sieve.Json.Value
import Sieve.Number.Reader

namespace Sieve.Json

/-! ### Numerals -/

/-- A number as it is written. -/
structure Numeral where
  /-- Whether a minus comes first. -/
  negative : Bool
  /-- The digits before the point. -/
  whole : List Char
  /-- The digits after the point; without a point there are none. -/
  fraction : List Char
  /-- The exponent, if there is one: whether it has a minus, and its digits. -/
  exponent? : Option (Bool × List Char)

/-- Reads the fraction of a number, if one comes: a point and at least one digit. -/
def readFraction? : List Char → Option (List Char × List Char)
  | '.' :: rest =>
    let digits := rest.takeWhile Text.isDigit
    if digits.isEmpty then none else some (digits, rest.dropWhile Text.isDigit)
  | rest => some ([], rest)

/-- Reads the exponent of a number, if one comes: its mark, an optional sign and at least one
digit. -/
def readExponent? : List Char → Option (Option (Bool × List Char) × List Char)
  | [] => some (none, [])
  | mark :: rest =>
    if mark = 'e' ∨ mark = 'E' then
      let (lowers, rest) := Text.splitSign rest
      let digits := rest.takeWhile Text.isDigit
      if digits.isEmpty then none
      else some (some (lowers, digits), rest.dropWhile Text.isDigit)
    else some (none, mark :: rest)

/-- Reads a numeral: an optional minus, whole digits without a zero in front, an optional
fraction and an optional exponent. -/
def readNumeral? (text : List Char) : Option (Numeral × List Char) := do
  let (negative, rest) :=
    match text with
    | '-' :: rest => (true, rest)
    | rest => (false, rest)
  let whole := rest.takeWhile Text.isDigit
  if whole.isEmpty || (whole.head? == some '0' && whole.length != 1) then none
  else
    let (fraction, rest) ← readFraction? (rest.dropWhile Text.isDigit)
    let (exponent?, rest) ← readExponent? rest
    some (⟨negative, whole, fraction, exponent?⟩, rest)

/-! ### Their values -/

/-- The digits gathered so far, and the power of ten they stand at. -/
structure Gathered where
  /-- The digits, read as a number below `2 ^ 64`. -/
  digits : Nat
  /-- The power of ten of the last digit. -/
  power : Int

/-- The greatest word of 64 bits. -/
def greatestWord : Nat := Nat.pow 2 64 - 1

/-- The digits with one more behind them, if they still fit a word. -/
def append? (digits : Nat) (character : Char) : Option Nat :=
  let longer := digits * 10 + Text.digitValue character
  if longer ≤ greatestWord then some longer else none

/-- Gathers digits until one does not fit: the digits gathered and the digits left. -/
def gather (digits : Nat) : List Char → Nat × List Char
  | [] => (digits, [])
  | character :: rest =>
    match append? digits character with
    | some longer => gather longer rest
    | none => (digits, character :: rest)

/-- The word divided by ten to the power 308 over and over, until the power of ten that is left
to divide by is at most 308. -/
def descend : (steps : Nat) → Double → Int → Double × Int
  | 0, number, power => (number, power)
  | steps + 1, number, power =>
    if power < -308 ∧ !number.isZero then
      descend steps (number.divide (Double.ofDecimal false 1 308)) (power + 308)
    else (number, power)

/-- The number made of gathered digits, if it is not too great. -/
def Gathered.number? (negative : Bool) (gathered : Gathered) : Option Double :=
  let word := Double.ofInt gathered.digits
  let signed (number : Double) : Double := if negative then number.negate else number
  if word.isZero then some (signed word)
  else if 308 < gathered.power then none
  else if 0 ≤ gathered.power then
    let number := word.multiply (Double.ofDecimal false 1 gathered.power)
    if number.isInfinite then none else some (signed number)
  else
    let (number, power) := descend 4 word gathered.power
    if number.isZero then some (signed number)
    else some (signed (number.divide (Double.ofDecimal false 1 (-power))))

/-- The greatest exponent that is counted. -/
def greatestExponent : Nat := 2147483647

/-- The number made of gathered digits and an exponent, if it is not too great. An exponent too
long to be counted makes a zero if it has a minus. -/
def Gathered.raised? (negative : Bool) (gathered : Gathered) :
    Option (Bool × List Char) → Option Double
  | none => gathered.number? negative
  | some (lowers, digits) =>
    let exponent := Text.digitsValue 0 digits
    if greatestExponent < exponent then
      if gathered.digits ≠ 0 ∧ !lowers then none else some (Double.zero negative)
    else
      let power := if lowers then gathered.power - exponent else gathered.power + exponent
      { gathered with power := power }.number? negative

namespace Numeral

/-- Whether a numeral has neither fraction nor exponent. -/
def isWhole (numeral : Numeral) : Bool :=
  numeral.fraction.isEmpty && numeral.exponent?.isNone

/-- The integer of a word and a sign. A negative zero is not an integer, and neither is a
negative number below the least word with a sign. -/
def ofWord (negative : Bool) (word : Nat) : Json :=
  if !negative then .integer word
  else if word = 0 ∨ Nat.pow 2 63 < word then .float (Double.ofInt word).negate
  else .integer (-(word : Int))

/-- The value of a numeral, if it is not too great. The digits that do not fit a word are passed
over, but those before the point count as places. -/
def value? (numeral : Numeral) : Option Json :=
  let (word, left) := gather 0 numeral.whole
  if left.isEmpty && numeral.isWhole then some (ofWord numeral.negative word)
  else
    let (word, passed) := gather word numeral.fraction
    let taken := numeral.fraction.length - passed.length
    let gathered : Gathered := ⟨word, (left.length : Int) - taken⟩
    (gathered.raised? numeral.negative numeral.exponent?).map .float

end Numeral

end Sieve.Json
