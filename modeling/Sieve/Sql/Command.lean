/-
This file defines commands: a text with numbered placeholders and the parameters
they stand for. A command is put together from pieces that know whether they are
fixed text, a name, a quoted text or a parameter; only at the end do the
parameters become placeholders, numbered from left to right.
-/

import Sieve.Blake3
import Sieve.Filter.Json
import Sieve.Sql.Quote

namespace Sieve.Sql

/-- A piece of a command. -/
inductive Piece where
  /-- Text of the language itself. -/
  | fixed (text : String)
  /-- A name that is always quoted. -/
  | quotedName (name : String)
  /-- A name that is quoted if it has to be. -/
  | name (name : String)
  /-- A text that is quoted. -/
  | quotedText (text : String)
  /-- A parameter. -/
  | parameter (parameter : Parameter)
  deriving DecidableEq

/-- A text with numbered placeholders, and the parameters they stand for. -/
structure Command where
  /-- The text. -/
  text : String
  /-- The parameters; placeholder 1 stands for the first one. -/
  parameters : List Parameter
  deriving DecidableEq

namespace Piece

/-- The parameter that a piece is. -/
def parameter? : Piece → Option Parameter
  | parameter bound => some bound
  | _ => none

/-- The text of pieces, given how many parameters come before them. -/
def write (before : Nat) : List Piece → List Char
  | [] => []
  | fixed text :: rest => text.toList ++ write before rest
  | quotedName text :: rest => (quoteName text).toList ++ write before rest
  | name text :: rest => (writeName text).toList ++ write before rest
  | quotedText text :: rest => (quoteText text).toList ++ write before rest
  | parameter _ :: rest => '$' :: Text.digitsOf (before + 1) ++ write (before + 1) rest

end Piece

namespace Command

/-- The command that pieces make up. -/
def ofPieces (pieces : List Piece) : Command where
  text := String.ofList (Piece.write 0 pieces)
  parameters := pieces.filterMap Piece.parameter?

/-- A digest of the text of a command. Commands that differ in their parameters alone have one
fingerprint. -/
def fingerprint (command : Command) : String :=
  Blake3.hexDigest command.text

/-- The JSON form of a command, with its fingerprint. -/
def toJson (command : Command) : Json :=
  .record
    [("fingerprint", .text command.fingerprint),
     ("parameters", .list (command.parameters.map Parameter.toJson)),
     ("text", .text command.text)]

end Command

end Sieve.Sql
