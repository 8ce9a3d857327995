/-
This file matches texts against patterns, as `LIKE` and `ILIKE` do. A pattern is
a row of tokens; the matcher keeps, for every place in the text, whether the
tokens so far match the text up to there, and moves these marks on by one token
at a time.
-/

import Sieve.Schema.Operator
import Sieve.Text.Lowercase

namespace Sieve.Pattern

/-- A part of a pattern. -/
inductive Token where
  /-- Any run of characters, also an empty one. -/
  | run
  /-- Any one character. -/
  | any
  /-- One given character. -/
  | exactly (character : Char)
  deriving DecidableEq

/-- The tokens of a pattern. A backslash takes away the meaning of the character after it, and
at the end of a pattern it stands for itself. -/
def tokens : List Char → List Token
  | [] => []
  | ['\\'] => [.exactly '\\']
  | '\\' :: character :: rest => .exactly character :: tokens rest
  | '%' :: rest => .run :: tokens rest
  | '_' :: rest => .any :: tokens rest
  | character :: rest => .exactly character :: tokens rest

/-- Marks that stay set from the first set one on. -/
def spread (seen : Bool) : List Bool → List Bool
  | [] => []
  | mark :: rest => (seen || mark) :: spread (seen || mark) rest

/-- The marks after one more token: the mark at a place says whether the tokens so far match the
text up to that place. -/
def advance (text : List Char) (marks : List Bool) : Token → List Bool
  | .run => spread false marks
  | .any => false :: marks.dropLast
  | .exactly character =>
    false :: List.zipWith (fun mark found => mark && found == character) marks text

/-- The marks before any token: only the empty text is matched. -/
def start (text : List Char) : List Bool :=
  true :: text.map fun _ => false

/-- Whether tokens match a whole text. -/
def matchTokens (tokens : List Token) (text : List Char) : Bool :=
  (tokens.foldl (advance text) (start text)).getLastD false

/-- Whether a pattern matches a whole text. Where case is ignored, the lowercase pattern is
matched against the lowercase text. -/
def isMatch (ignoresCase : Bool) (pattern text : List Char) : Bool :=
  if ignoresCase then matchTokens (tokens (Text.lowercase pattern)) (Text.lowercase text)
  else matchTokens (tokens pattern) text

/-! ### Patterns that look for a text -/

/-- A text in which each character that means something in a pattern is marked to stand for
itself. -/
def literally : List Char → List Char
  | [] => []
  | character :: rest =>
    if character = '\\' ∨ character = '%' ∨ character = '_' then
      '\\' :: character :: literally rest
    else character :: literally rest

/-- The pattern that looks for a text in a given way. -/
def lookingFor (textMatch : TextMatch) (text : List Char) : List Char :=
  match textMatch with
  | .contains => '%' :: literally text ++ ['%']
  | .startsWith => literally text ++ ['%']
  | .endsWith => '%' :: literally text

end Sieve.Pattern
