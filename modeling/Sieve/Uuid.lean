/-
This file defines identifiers of 128 bits, their order, and the texts that write
them: bare digits, digits in five groups, and the groups in braces or after the
name of their namespace. They are always printed in groups and in lowercase.
-/

import Sieve.Text.Basic

namespace Sieve

/-- An identifier of 128 bits. -/
structure Uuid where
  /-- The bits, read as a number. -/
  bits : BitVec 128
  deriving DecidableEq

namespace Uuid

/-- The order of identifiers, that of their bits. -/
def compare (left right : Uuid) : Ordering :=
  Ord.compare left.bits.toNat right.bits.toNat

/-- The number that a row of hexadecimal digits writes. -/
def hexNumber? (digits : List Char) : Option Nat :=
  digits.foldlM (fun total digit => (Text.hexValue? digit).map (total * 16 + ·)) 0

/-- The identifier that exactly 32 hexadecimal digits write. -/
def ofDigits? (digits : List Char) : Option Uuid :=
  if digits.length = 32 then (hexNumber? digits).map fun number => ⟨BitVec.ofNat 128 number⟩
  else none

/-- The identifier that five groups of digits write, with hyphens between them. -/
def ofGroups? (text : List Char) : Option Uuid :=
  let groups := Text.pieces '-' text
  if groups.map List.length = [8, 4, 4, 4, 12] then ofDigits? groups.flatten else none

/-- The text that may stand before the groups. -/
def namespaceMark : List Char :=
  "urn:uuid:".toList

/-- The identifier that a text writes. -/
def ofText? (text : List Char) : Option Uuid :=
  if text.length = 32 then ofDigits? text
  else if text.length = 38 then
    if text.head? = some '\x7b' ∧ text.getLast? = some '\x7d' then
      ofGroups? (text.drop 1).dropLast
    else none
  else if text.length = 45 then
    if (text.take 9).map Text.lowerAscii = namespaceMark then ofGroups? (text.drop 9) else none
  else ofGroups? text

/-- The text of an identifier: five groups of lowercase digits. -/
def write (identifier : Uuid) : List Char :=
  let digits := Text.paddedHex 32 identifier.bits.toNat
  digits.take 8 ++ '-' :: (digits.drop 8).take 4 ++ '-' :: (digits.drop 12).take 4 ++
    '-' :: (digits.drop 16).take 4 ++ '-' :: digits.drop 20

/-- The text of an identifier, as it is stored. -/
def toText (identifier : Uuid) : String :=
  String.ofList identifier.write

/-- The identifier made of random bits: six of them are replaced by marks that tell how the
identifier was made. -/
def ofRandom (bits : BitVec 128) : Uuid :=
  let versioned := (bits &&& ~~~(0xf#128 <<< 76)) ||| (0x4#128 <<< 76)
  ⟨(versioned &&& ~~~(0x3#128 <<< 62)) ||| (0x2#128 <<< 62)⟩

end Uuid

end Sieve
