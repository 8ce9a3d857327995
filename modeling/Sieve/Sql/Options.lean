/-
This file defines the options for commands, and reads them from JSON and from
the variables of an environment.
-/

import Sieve.Json.Decode
import Sieve.Text.Basic

namespace Sieve.Sql

/-- The options for commands. -/
structure Options where
  /-- The column that holds the documents. -/
  dataColumn : String
  /-- The name under which the table of the documents is read. -/
  tableAlias : String
  /-- Whether no predicate means every document, and is not refused. -/
  allowsEmpty : Bool
  deriving DecidableEq, Repr

namespace Options

/-- The options where nothing else is asked for. -/
def standard : Options where
  dataColumn := "data"
  tableAlias := "d"
  allowsEmpty := true

/-- A text that may be missing, in which case it has a standard value. -/
def textOr? (standard : String) : Option Json → Option String
  | none => some standard
  | some value => value.asText?

/-- A truth value that may be missing, in which case it has a standard value. -/
def boolOr? (standard : Bool) : Option Json → Option Bool
  | none => some standard
  | some value => value.asBool?

/-- The options that a JSON value describes: an object or a list, of which any part may be
missing. -/
def ofJson? (value : Json) : Option Options := do
  let fields ← Json.Fields.ofJson? value
  let dataColumn ← textOr? standard.dataColumn (← fields.optional? 0 "data_column")
  let tableAlias ← textOr? standard.tableAlias (← fields.optional? 1 "table_alias")
  let allowsEmpty ← boolOr? standard.allowsEmpty (← fields.optional? 2 "allow_empty")
  if fields.fits 3 then some ⟨dataColumn, tableAlias, allowsEmpty⟩ else none

/-- The JSON form of options. -/
def toJson (options : Options) : Json :=
  .record
    [("data_column", .text options.dataColumn), ("table_alias", .text options.tableAlias),
     ("allow_empty", .bool options.allowsEmpty)]

/-- A variable that gives a name; one that is not set or blank leaves the standard. -/
def nameOr (standard : String) (setting : Option String) : String :=
  match setting with
  | some name => if (Text.trim name.toList).isEmpty then standard else name
  | none => standard

/-- The names of the variables that are read. -/
def variableNames : List String :=
  ["DOCFILTER_DATA_COLUMN", "DOCFILTER_TABLE_ALIAS", "DOCFILTER_ALLOW_EMPTY"]

/-- The options that an environment sets. -/
def ofEnvironment (setting? : String → Option String) : Options where
  dataColumn := nameOr standard.dataColumn (setting? "DOCFILTER_DATA_COLUMN")
  tableAlias := nameOr standard.tableAlias (setting? "DOCFILTER_TABLE_ALIAS")
  allowsEmpty :=
    match setting? "DOCFILTER_ALLOW_EMPTY" with
    | some "true" => true
    | some "false" => false
    | _ => standard.allowsEmpty

end Options

end Sieve.Sql
