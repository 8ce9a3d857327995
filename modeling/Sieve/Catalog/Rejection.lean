/-
This file lists the reasons for which a catalog or a predicate is not accepted,
and the message for each.
-/

import Sieve.Schema.Kind

namespace Sieve

/-- Why a catalog is not accepted. -/
inductive CatalogFault where
  /-- The text is not a list of types of documents. -/
  | unreadable
  /-- A type has no name or no table. -/
  | unnamed
  /-- A path has an empty segment. -/
  | malformedPath (typeName path : String)
  /-- Two fields have one path. -/
  | repeatedField (typeName path : String)
  /-- Two fields have one column. -/
  | repeatedColumn (typeName column : String)
  /-- The key is no field. -/
  | undeclaredKey (typeName path : String)
  /-- Two types have one name. -/
  | repeatedType (typeName : String)
  deriving DecidableEq

/-- The message for a fault of a catalog. -/
def CatalogFault.message : CatalogFault → String
  | unreadable => "not a list of document types"
  | unnamed => "document type needs a name and a table"
  | malformedPath typeName path => typeName ++ ": malformed property path '" ++ path ++ "'"
  | repeatedField typeName path => typeName ++ ": field " ++ path ++ " declared twice"
  | repeatedColumn typeName column =>
    typeName ++ ": column " ++ column ++ " used by more than one field"
  | undeclaredKey typeName path =>
    typeName ++ ": primary key field " ++ path ++ " is not declared"
  | repeatedType typeName => "document type " ++ typeName ++ " registered twice"

/-- Why an operator cannot be used. -/
inductive UnsupportedUse where
  /-- The kind of the field does not support the operator. -/
  | undefined (path : String) (operator : Operator) (kind : Kind)
  /-- A comparison has no field on either side. -/
  | fieldless (comparison : Comparison)
  /-- The kinds of two fields do not compare. -/
  | incomparable (left : String) (comparison : Comparison) (right : String)
      (leftKind rightKind : Kind)
  deriving DecidableEq

namespace UnsupportedUse

/-- What the operator was used on. -/
def subject : UnsupportedUse → String
  | undefined path _ _ => path
  | fieldless _ => "<literal>"
  | incomparable left comparison right _ _ => left ++ " " ++ comparison.sign ++ " " ++ right

/-- The name of the operator. -/
def operatorName : UnsupportedUse → String
  | undefined _ operator _ => operator.name
  | fieldless comparison => comparison.sign
  | incomparable _ comparison _ _ _ => comparison.sign

/-- What is wrong with the use. -/
def detail : UnsupportedUse → String
  | undefined _ _ kind => "not defined for " ++ kind.name ++ " values"
  | fieldless _ => "a comparison must reference at least one field"
  | incomparable _ _ _ leftKind rightKind =>
    leftKind.name ++ " and " ++ rightKind.name ++ " values do not compare"

end UnsupportedUse

/-- What a column is asked to do. -/
inductive ColumnUse where
  /-- To keep the values of its field. -/
  | storage
  /-- To answer an operator. -/
  | answering (operator : Operator)
  deriving DecidableEq

/-- The name of what a column is asked to do. -/
def ColumnUse.name : ColumnUse → String
  | storage => "storage"
  | answering operator => operator.name

/-- Why a catalog or a predicate is not accepted. -/
inductive Rejection where
  /-- There is no type of documents of a name. -/
  | unknownType (typeName : String)
  /-- A type has no field at a path. -/
  | unknownField (typeName path : String)
  /-- An operator cannot be used. -/
  | unsupported (use : UnsupportedUse)
  /-- A column cannot do what it is asked to. -/
  | storageMismatch (path column : String) (type : ColumnType) (kind : Kind) (use : ColumnUse)
  /-- A literal is not of the kind of the field. -/
  | invalidOperand (path : String) (expected : Kind) (found : String)
  /-- There is no predicate, and one is required. -/
  | emptyPredicate
  /-- The catalog has a fault. -/
  | invalidCatalog (fault : CatalogFault)
  deriving DecidableEq

/-- The message for an error. -/
def Rejection.message : Rejection → String
  | unknownType typeName => "document type not registered: " ++ typeName
  | unknownField typeName path =>
    "unknown field '" ++ path ++ "' on document type '" ++ typeName ++ "'"
  | unsupported use =>
    "operator " ++ use.operatorName ++ " is not supported for '" ++ use.subject ++ "': " ++
      use.detail
  | storageMismatch path column type kind use =>
    "column " ++ column ++ " (" ++ type.name ++ ") cannot serve " ++ use.name ++ " on field '" ++
      path ++ "' (" ++ kind.name ++ ")"
  | invalidOperand path expected found =>
    "invalid operand for field '" ++ path ++ "': expected " ++ expected.name ++ ", got " ++ found
  | emptyPredicate => "empty predicate is not allowed"
  | invalidCatalog fault => "invalid catalog: " ++ fault.message

end Sieve
