/-
This file defines the lowercase of a whole text. Two things make it more than a
map over characters: the dotted capital I becomes two characters, and the
lowercase of a capital sigma is the final form when the sigma ends a word and
the medial form elsewhere, so it depends on the letters on both sides.
-/

import Sieve.Text.Letters

namespace Sieve.Text

/-- Whether the first character that is not passed over is a letter with a case. -/
def meetsLetter (text : List Char) : Bool :=
  match text.dropWhile isCaseIgnorable with
  | [] => false
  | character :: _ => isCased character

/-- The lowercase of a capital sigma between two texts, the one before it given backwards:
the final form when a letter comes before it and none after it. -/
def lowerSigma (before after : List Char) : Char :=
  if meetsLetter before && !meetsLetter after then 'ς' else 'σ'

/-- The lowercase of a text that stands after another one, which is given backwards. -/
def lowercaseAfter (before : List Char) : List Char → List Char
  | [] => []
  | character :: rest =>
    let lowered :=
      if character = 'Σ' then [lowerSigma before rest]
      else if character = 'İ' then ['i', '\u0307']
      else [lowerLetter character]
    lowered ++ lowercaseAfter (character :: before) rest

/-- The lowercase of a whole text. -/
def lowercase (text : List Char) : List Char :=
  lowercaseAfter [] text

end Sieve.Text
