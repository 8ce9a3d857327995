/-
This file writes filters as SQL. Every combination stands in brackets of its
own, names and texts are quoted, and literals appear as parameters alone.
-/

import Sieve.Filter.Basic
import Sieve.Sql.Command
import Sieve.Sql.Options

namespace Sieve

open Sql

namespace Sql.Options

/-- The table of the documents, as it is referred to. -/
def tablePiece (options : Options) : Piece :=
  .name options.tableAlias

/-- The column of the documents, as it is referred to. -/
def body (options : Options) : List Piece :=
  [options.tablePiece, .fixed ".", .name options.dataColumn]

end Sql.Options

/-- The steps from a document down to a text in it. -/
def arrowPieces : List String → List Piece
  | [] => []
  | [last] => [.fixed " ->> ", .quotedText last]
  | segment :: rest => .fixed " -> " :: .quotedText segment :: arrowPieces rest

/-- The expression for a value that is read from a row. -/
def Source.pieces (options : Options) : Source → List Piece
  | jsonText segments => options.body ++ arrowPieces segments
  | column name => [options.tablePiece, .fixed ".", .quotedName name]
  | cast inner type =>
    .fixed "CAST(" :: inner.pieces options ++ [.fixed (" AS " ++ type.name ++ ")")]
  | atUtc inner => .fixed "(" :: inner.pieces options ++ [.fixed " AT TIME ZONE 'UTC')"]

/-- Parameters with commas between them. -/
def parameterPieces : List Parameter → List Piece
  | [] => []
  | [parameter] => [.parameter parameter]
  | parameter :: rest => .parameter parameter :: .fixed ", " :: parameterPieces rest

namespace Filter

mutual

/-- The condition for a filter. -/
def pieces (options : Options) : Filter → List Piece
  | all [] => [.fixed "TRUE"]
  | all parts => .fixed "(" :: joinedPieces options " AND " parts ++ [.fixed ")"]
  | any [] => [.fixed "FALSE"]
  | any parts => .fixed "(" :: joinedPieces options " OR " parts ++ [.fixed ")"]
  | not part => .fixed "NOT (" :: pieces options part ++ [.fixed ")"]
  | compare field comparison parameter =>
    field.source.pieces options ++ [.fixed (" " ++ comparison.sign ++ " "), .parameter parameter]
  | compareFields left comparison right =>
    left.source.pieces options ++ .fixed (" " ++ comparison.sign ++ " ") ::
      right.source.pieces options
  | member field parameters negated =>
    field.source.pieces options ++ .fixed (if negated then " NOT IN (" else " IN (") ::
      parameterPieces parameters ++ [.fixed ")"]
  | between field low high =>
    field.source.pieces options ++
      [.fixed " BETWEEN ", .parameter low, .fixed " AND ", .parameter high]
  | isNull field negated =>
    field.source.pieces options ++ [.fixed (if negated then " IS NOT NULL" else " IS NULL")]
  | like field pattern ignoresCase =>
    field.source.pieces options ++
      [.fixed (if ignoresCase then " ILIKE " else " LIKE "), .parameter pattern]

/-- The conditions for filters, with a word between them. -/
def joinedPieces (options : Options) (joiner : String) : List Filter → List Piece
  | [] => []
  | [part] => pieces options part
  | part :: rest => pieces options part ++ .fixed joiner :: joinedPieces options joiner rest

end

/-- The condition for a filter. -/
def whereClause (options : Options) (filter : Filter) : Command :=
  Command.ofPieces (filter.pieces options)

/-- The statement that reads something from the documents of a table that pass a filter. Where
every document passes there is no condition. -/
def statement (options : Options) (head : List Piece) (table : String) (filter : Filter) :
    Command :=
  let condition := if filter.isAlways then [] else .fixed " where " :: filter.pieces options
  Command.ofPieces
    (head ++ [.fixed " from ", .quotedName table, .fixed " as ", options.tablePiece] ++ condition)

/-- The statement that reads the documents of a table that pass a filter. -/
def select (options : Options) (table : String) (filter : Filter) : Command :=
  filter.statement options (.fixed "select " :: options.body) table

/-- The statement that counts the documents of a table that pass a filter. -/
def count (options : Options) (table : String) (filter : Filter) : Command :=
  filter.statement options [.fixed "select count(*)"] table

end Filter

end Sieve
