/-
This file holds the small operations on texts that the rest of the library is
built from: blanks and trimming, the case of ASCII letters, cutting a text at a
separator, and writing a quote twice. A text under work is a list of
characters; `String` is only the form in which texts are stored.
-/

import Sieve.Text.Ranges

namespace Sieve.Text

/-! ### Blanks -/

/-- The ranges of white space, line ends and the no-break spaces included. -/
def blankRanges : List (Nat × Nat) :=
  [(0x9, 0xd), (0x20, 0x20), (0x85, 0x85), (0xa0, 0xa0), (0x1680, 0x1680), (0x2000, 0x200a),
   (0x2028, 0x2029), (0x202f, 0x202f), (0x205f, 0x205f), (0x3000, 0x3000)]

/-- White space in the sense of Unicode. -/
def isBlank (character : Char) : Bool :=
  inRanges blankRanges character

/-- A text without the blanks it begins with. -/
def trimStart (text : List Char) : List Char :=
  text.dropWhile isBlank

/-- A text without the blanks it ends with. -/
def trimEnd (text : List Char) : List Char :=
  (text.reverse.dropWhile isBlank).reverse

/-- A text without the blanks around it. -/
def trim (text : List Char) : List Char :=
  trimEnd (trimStart text)

/-! ### ASCII letters and digits -/

/-- The lowercase of an ASCII capital; any other character is kept. -/
def lowerAscii (character : Char) : Char :=
  if 'A' ≤ character ∧ character ≤ 'Z' then Char.ofNat (character.toNat + 32) else character

/-- An ASCII digit. -/
def isDigit (character : Char) : Bool :=
  '0' ≤ character && character ≤ '9'

/-- The number a digit stands for. -/
def digitValue (character : Char) : Nat :=
  character.toNat - '0'.toNat

/-- The number that a row of digits writes, read after the digits of `start`. -/
def digitsValue (start : Nat) (digits : List Char) : Nat :=
  digits.foldl (fun total digit => total * 10 + digitValue digit) start

/-- The digits of a natural number. -/
def digitsOf (number : Nat) : List Char :=
  Nat.toDigits 10 number

/-- The digits of a natural number, with zeros in front up to a width. -/
def paddedDigits (width number : Nat) : List Char :=
  let digits := digitsOf number
  List.replicate (width - digits.length) '0' ++ digits

/-- The number a hexadecimal digit stands for, in either case. -/
def hexValue? (character : Char) : Option Nat :=
  if isDigit character then some (digitValue character)
  else if 'a' ≤ character ∧ character ≤ 'f' then some (character.toNat - 'a'.toNat + 10)
  else if 'A' ≤ character ∧ character ≤ 'F' then some (character.toNat - 'A'.toNat + 10)
  else none

/-- The hexadecimal digits of a natural number, in lowercase. -/
def hexDigitsOf (number : Nat) : List Char :=
  Nat.toDigits 16 number

/-- The lowest `width` hexadecimal digits of a natural number, highest first. -/
def paddedHex : (width number : Nat) → List Char
  | 0, _ => []
  | width + 1, number => paddedHex width (number / 16) ++ [Nat.digitChar (number % 16)]

/-! ### Pieces of a text -/

/-- The pieces of a text between the occurrences of a separator. There is always at least one
piece, and two separators side by side have an empty piece between them. -/
def pieces (separator : Char) : List Char → List (List Char)
  | [] => [[]]
  | character :: rest =>
    if character = separator then [] :: pieces separator rest
    else
      match pieces separator rest with
      | [] => [[character]]
      | piece :: others => (character :: piece) :: others

/-- A text in which each occurrence of a quote is written twice. -/
def doubled (quote : Char) : List Char → List Char
  | [] => []
  | character :: rest =>
    if character = quote then quote :: quote :: doubled quote rest
    else character :: doubled quote rest

/-- A text in which each occurrence of a two-character mark is replaced by one character,
found from left to right. -/
def contracted (first second replacement : Char) : List Char → List Char
  | left :: right :: rest =>
    if left = first ∧ right = second then
      replacement :: contracted first second replacement rest
    else left :: contracted first second replacement (right :: rest)
  | rest => rest

end Sieve.Text
