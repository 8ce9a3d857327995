/-
This file defines how a type of documents is described: its name, its table, the
path of its key, and its fields, each of a kind and stored either inside the
document alone or in a column of its own as well.
-/

import Sieve.Schema.Kind
import Sieve.Text.Basic

namespace Sieve

/-! ### Paths -/

/-- The segments of a dotted path. Empty segments are dropped. -/
def pathSegments (path : String) : List String :=
  ((Text.pieces '.' path.toList).filter fun segment => !segment.isEmpty).map String.ofList

/-- A path with an empty segment in it. -/
def isMalformedPath (path : String) : Bool :=
  (Text.pieces '.' path.toList).any List.isEmpty

/-- The column that a path is kept in where no other is asked for: its segments in lowercase,
with low lines between them. -/
def columnNameOf (path : String) : String :=
  "_".intercalate ((pathSegments path).map fun segment =>
    String.ofList (segment.toList.map Text.lowerAscii))

/-! ### Fields -/

/-- Where the values of a field are stored. -/
inductive Storage where
  /-- Inside the document alone. -/
  | extracted
  /-- Inside the document and in a column of a type. -/
  | duplicated (column : String) (type : ColumnType)
  deriving DecidableEq, Repr

/-- A field of a type of documents. -/
structure Field where
  /-- The dotted path of the field inside a document. -/
  path : String
  /-- The kind of its values. -/
  kind : Kind
  /-- Where its values are stored. -/
  storage : Storage
  deriving DecidableEq, Repr

/-- The column of a field, if it has one, and its type. -/
def Field.column? (field : Field) : Option (String × ColumnType) :=
  match field.storage with
  | .extracted => none
  | .duplicated column type => some (column, type)

/-- A type of documents. -/
structure DocumentType where
  /-- The name of the type. -/
  name : String
  /-- The table that its documents are kept in. -/
  table : String
  /-- The path of the field that is its key. -/
  keyPath : String
  /-- Its fields. -/
  fields : List Field
  deriving DecidableEq, Repr

namespace DocumentType

/-- The field at a path. -/
def field? (documentType : DocumentType) (path : String) : Option Field :=
  documentType.fields.find? fun field => field.path == path

/-- The field that is the key. -/
def key? (documentType : DocumentType) : Option Field :=
  documentType.field? documentType.keyPath

/-- The fields that have a column. -/
def duplicatedFields (documentType : DocumentType) : List Field :=
  documentType.fields.filter fun field => field.column?.isSome

end DocumentType

end Sieve
