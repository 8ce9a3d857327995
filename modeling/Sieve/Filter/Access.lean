/-
This file decides how a field is read for an operator and how a literal is bound
to it. A field compared with literals is read as it is stored, so that its column
can serve an index, and the literal is brought to the type of the field. Two
fields compared with each other are both brought to a type of their kind, so that
it does not matter which of them has a column.
-/

import Sieve.Catalog.Basic
import Sieve.Datum.Cast
import Sieve.Filter.Basic
import Sieve.Literal

namespace Sieve

/-! ### Fields -/

/-- An access brought to a type: a wall clock of an instant becomes the instant, anything else
is cast. -/
def Access.broughtTo (access : Access) (type : ColumnType) : Access :=
  if access.type.comparesWith type then access
  else if access.kind = .utc ∧ access.type = .timestamp then
    { access with source := .atUtc access.source, type := type }
  else { access with source := .cast access.source type, type := type }

namespace Field

/-- The text of a field inside a document. -/
def textSource (field : Field) : Source :=
  .jsonText (pathSegments field.path)

/-- How a field is read as it is stored. -/
def access (field : Field) : Access :=
  match field.storage with
  | .duplicated column type => ⟨field.path, field.kind, .column column, type⟩
  | .extracted =>
    match field.kind.jsonCast? with
    | some type => ⟨field.path, field.kind, .cast field.textSource type, type⟩
    | none => ⟨field.path, field.kind, field.textSource, .text⟩

/-- Checks that the kind of a field supports an operator. -/
def checkOperator (field : Field) (operator : Operator) : Except Rejection Unit :=
  if field.kind.supports operator.operatorClass then .ok ()
  else .error (.unsupported (.undefined field.path operator field.kind))

/-- Whether a column of a type answers an operator on values of a kind as the kind does. -/
def answers (type : ColumnType) (kind : Kind) (operator : Operator) : Bool :=
  match operator.operatorClass with
  | .ordering => type.ordersLike kind
  | .substring => type == .text
  | .equality | .nullness => true

/-- Checks the column of a field, if it has one, against a condition on its type. -/
def checkColumn (field : Field) (operator : Operator) (condition : ColumnType → Bool) :
    Except Rejection Unit :=
  match field.storage with
  | .extracted => .ok ()
  | .duplicated column type =>
    if field.kind.canStoreIn type && condition type then .ok ()
    else
      .error (.storageMismatch field.path column type field.kind (.answering operator))

/-- How a field is read to be compared with literals. -/
def literalAccess (field : Field) (operator : Operator) : Except Rejection Access := do
  field.checkOperator operator
  field.checkColumn operator fun type => answers type field.kind operator
  pure field.access

/-- How a field is read to be compared with another field. -/
def fieldAccess (field : Field) (operator : Operator) : Except Rejection Access := do
  field.checkOperator operator
  field.checkColumn operator fun _ => true
  pure (field.access.broughtTo field.kind.comparisonType)

end Field

namespace Catalog

/-- How the field of a type at a path is read to be compared with literals. -/
def literalAccess (catalog : Catalog) (typeName path : String) (operator : Operator) :
    Except Rejection Access := do
  let field ← catalog.resolve typeName path
  field.literalAccess operator

/-- How the field of a type at a path is read to be compared with another field. -/
def fieldAccess (catalog : Catalog) (typeName path : String) (operator : Operator) :
    Except Rejection Access := do
  let field ← catalog.resolve typeName path
  field.fieldAccess operator

end Catalog

/-! ### Literals -/

/-- The value that a literal means for a field of a kind that is read as a type. -/
def Literal.datum? (kind : Kind) (type : ColumnType) : Literal → Option Datum
  | .text value =>
    match kind with
    | .string => some (.text value)
    | .uuid => (Uuid.ofText? value.toList).map .uuid
    | _ => none
  | .int value =>
    match kind with
    | .integer => some (.int value)
    | .float => some (.float (Double.ofInt value.toInt))
    | _ => none
  | .float value => if kind = .float then some (.float value) else none
  | .bool value => if kind = .boolean then some (.bool value) else none
  | .uuid value => if kind = .uuid then some (.uuid value) else none
  | literal =>
    match kind with
    | .naive => literal.wallClock?.map .timestamp
    | .utc | .offset =>
      literal.instant?.map fun instant =>
        if type = .timestamp then .timestamp instant.utc else .timestampTz instant
    | _ => none

/-- A value as a column of a type keeps it: in a column of texts, by its text. -/
def Datum.keptIn (type : ColumnType) (value : Datum) : Datum :=
  match type, value with
  | .text, .int content => .text (intText content)
  | .text, .bool content => .text (boolText content)
  | .text, .uuid content => .text content.toText
  | _, other => other

namespace Access

/-- The parameter that a literal is bound as when it is compared with a field. -/
def bind (access : Access) (literal : Literal) : Except Rejection Parameter :=
  if literal.isNull then .ok ⟨.null, access.type.parameterType⟩
  else
    match literal.datum? access.kind access.type with
    | some value => .ok ⟨value.keptIn access.type, access.type.parameterType⟩
    | none => .error (.invalidOperand access.path access.kind literal.typeName)

end Access

/-! ### Warnings -/

/-- A literal with a zone that is compared with a field that has none. -/
structure Warning where
  /-- The path of the field. -/
  path : String
  /-- The name of the type of the literal. -/
  typeName : String
  deriving DecidableEq

/-- The message of a warning. -/
def Warning.message : String :=
  "zone-aware literal compared with a naive timestamp field; using its wall clock"

/-- The warnings about literals compared with a field of a kind at a path. -/
def Kind.warnings (kind : Kind) (path : String) (literals : List Literal) : List Warning :=
  if kind = .naive then
    (literals.filter Literal.isZoneAware).map fun literal => ⟨path, literal.typeName⟩
  else []

end Sieve
