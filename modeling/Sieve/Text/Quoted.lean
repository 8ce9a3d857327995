/-
This file writes a text between double quotes so that every character in it can
be seen: quotes and backslashes are marked, the common controls have a letter,
and any other invisible character is written by its number.
-/

import Sieve.Text.Basic
import Sieve.Text.Invisible

namespace Sieve.Text

/-- The written form of one character inside double quotes. -/
def quotedCharacter (character : Char) : List Char :=
  if character = '"' then ['\\', '"']
  else if character = '\\' then ['\\', '\\']
  else if character = '\n' then ['\\', 'n']
  else if character = '\r' then ['\\', 'r']
  else if character = '\t' then ['\\', 't']
  else if character.toNat = 0 then ['\\', '0']
  else if isInvisible character then
    ['\\', 'u', '\x7b'] ++ hexDigitsOf character.toNat ++ ['\x7d']
  else [character]

/-- A text between double quotes, with every character of it visible. -/
def quoted (text : List Char) : List Char :=
  '"' :: text.flatMap quotedCharacter ++ ['"']

end Sieve.Text
