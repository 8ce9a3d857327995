/-
This file writes JSON texts, either without any blanks or with one part on a
line and an indentation of two blanks. The members of an object are written in
their order. A number that is not finite has no JSON form and is written `null`.
-/

import Sieve.Json.Value
import Sieve.Number.Layout
import Sieve.Number.Reader

namespace Sieve.Json

/-- The written form of one character in a text: quotes, backslashes and controls are
escaped. -/
def escaped (character : Char) : List Char :=
  if character = '"' then ['\\', '"']
  else if character = '\\' then ['\\', '\\']
  else if character = '\x08' then ['\\', 'b']
  else if character = '\x0c' then ['\\', 'f']
  else if character = '\n' then ['\\', 'n']
  else if character = '\r' then ['\\', 'r']
  else if character = '\t' then ['\\', 't']
  else if character.toNat < 0x20 then '\\' :: 'u' :: Text.paddedHex 4 character.toNat
  else [character]

/-- The written form of a text. -/
def writeText (text : String) : List Char :=
  '"' :: text.toList.flatMap escaped ++ ['"']

/-- The written form of a value that is no array and no object. -/
def writeScalar : Json → List Char
  | .null => ['n', 'u', 'l', 'l']
  | .bool true => ['t', 'r', 'u', 'e']
  | .bool false => ['f', 'a', 'l', 's', 'e']
  | .integer value => Text.writeInt value
  | .float value => if value.isFinite then Layout.json.write value else ['n', 'u', 'l', 'l']
  | .text value => writeText value
  | .list _ => []
  | .record _ => []

/-! ### Without blanks -/

mutual

/-- The text of a value, without blanks. -/
def write : Json → List Char
  | .list items => '[' :: writeItems items ++ [']']
  | .record members => '\x7b' :: writeMembers members ++ ['\x7d']
  | value => writeScalar value

/-- The texts of the items of an array, with commas between them. -/
def writeItems : List Json → List Char
  | [] => []
  | [item] => write item
  | item :: rest => write item ++ ',' :: writeItems rest

/-- The texts of the members of an object, with commas between them. -/
def writeMembers : List (String × Json) → List Char
  | [] => []
  | [(key, value)] => writeText key ++ ':' :: write value
  | (key, value) :: rest => writeText key ++ ':' :: write value ++ ',' :: writeMembers rest

end

/-- The text of a value, without blanks. -/
def toText (value : Json) : String :=
  String.ofList value.write

/-! ### With one part on a line -/

/-- A new line, indented. -/
def newLine (depth : Nat) : List Char :=
  '\n' :: List.replicate (2 * depth) ' '

mutual

/-- The text of a value, with one part on a line. -/
def writeLines (depth : Nat) : Json → List Char
  | .list [] => ['[', ']']
  | .list items => '[' :: writeItemLines (depth + 1) items ++ newLine depth ++ [']']
  | .record [] => ['\x7b', '\x7d']
  | .record members =>
    '\x7b' :: writeMemberLines (depth + 1) members ++ newLine depth ++ ['\x7d']
  | value => writeScalar value

/-- The lines of the items of an array. -/
def writeItemLines (depth : Nat) : List Json → List Char
  | [] => []
  | [item] => newLine depth ++ writeLines depth item
  | item :: rest => newLine depth ++ writeLines depth item ++ ',' :: writeItemLines depth rest

/-- The lines of the members of an object. -/
def writeMemberLines (depth : Nat) : List (String × Json) → List Char
  | [] => []
  | [(key, value)] => newLine depth ++ writeText key ++ ':' :: ' ' :: writeLines depth value
  | (key, value) :: rest =>
    newLine depth ++ writeText key ++ ':' :: ' ' :: writeLines depth value ++
      ',' :: writeMemberLines depth rest

end

/-- The text of a value, with one part on a line. -/
def toLines (value : Json) : String :=
  String.ofList (value.writeLines 0)

end Sieve.Json
