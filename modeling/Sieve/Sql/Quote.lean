/-
This file writes names and texts so that SQL reads back exactly them. A quote
ends at the first quote mark that is not doubled, so doubling every mark inside
is all that is needed.
-/

import Sieve.Text.Basic

namespace Sieve.Sql

/-- A name between double quotes. -/
def quoteName (name : String) : String :=
  String.ofList ('"' :: Text.doubled '"' name.toList ++ ['"'])

/-- A text between single quotes. -/
def quoteText (text : String) : String :=
  String.ofList ('\'' :: Text.doubled '\'' text.toList ++ ['\''])

/-- A lowercase ASCII letter or a low line, with which a plain name may begin. -/
def beginsPlainName (character : Char) : Bool :=
  ('a' ≤ character && character ≤ 'z') || character == '_'

/-- A name that SQL reads as it is without quotes: lowercase letters, digits and low lines, no
digit first. -/
def isPlainName (name : List Char) : Bool :=
  match name with
  | [] => false
  | first :: rest =>
    beginsPlainName first &&
      rest.all fun character => beginsPlainName character || Text.isDigit character

/-- A name, between double quotes unless it is plain. -/
def writeName (name : String) : String :=
  if isPlainName name.toList then name else quoteName name

end Sieve.Sql
