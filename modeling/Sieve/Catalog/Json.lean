/-
This file reads catalogs from JSON and writes the description of a type as JSON.
A catalog is a list of types, a type an object or its four fields in order, and
a field an object that names its storage.
-/

import Sieve.Catalog.Basic
import Sieve.Json.Decode
import Sieve.Json.Reader

namespace Sieve

/-- The ways of storing a field, in the order in which they are listed. -/
inductive Strategy where
  /-- Inside the document alone. -/
  | extracted
  /-- In a column as well. -/
  | duplicated
  deriving DecidableEq

/-- The names of the ways of storing a field. -/
def Strategy.names : List (String × Strategy) :=
  [("json_extracted", .extracted), ("duplicated_column", .duplicated)]

/-- The storage that the members of a field give. A column and its type are looked for only
where the field has one. -/
def Storage.ofFields? (fields : Json.Fields) : Option Storage := do
  let strategy ← Json.choiceByPlace? .lenient Strategy.names (← fields.required? 2 "strategy")
  match strategy with
  | .extracted => some .extracted
  | .duplicated => do
    let column ← (← fields.required? 3 "column").asText?
    let type ← ColumnType.ofText? (← (← fields.required? 4 "sql_type").asText?)
    some (.duplicated column type)

/-- The field that a JSON object describes. -/
def Field.ofJson? : Json → Option Field
  | .record members => do
    let fields := Json.Fields.named members
    let path ← (← fields.required? 0 "path").asText?
    let kind ← Json.choice? .strict Kind.names (← fields.required? 1 "kind")
    let storage ← Storage.ofFields? fields
    some ⟨path, kind, storage⟩
  | _ => none

/-- The type of documents that a JSON value describes. -/
def DocumentType.ofJson? (value : Json) : Option DocumentType := do
  let fields ← Json.Fields.ofJson? value
  let name ← (← fields.required? 0 "name").asText?
  let table ← (← fields.required? 1 "table").asText?
  let keyPath ← (← fields.required? 2 "id_field").asText?
  let items ← (← fields.required? 3 "fields").asList?
  let declared ← items.mapM Field.ofJson?
  if fields.fits 4 then some ⟨name, table, keyPath, declared⟩ else none

/-- The keys of the members that describe a type of documents. -/
def DocumentType.memberKeys : List String := ["name", "table", "id_field", "fields"]

/-- The catalog of the types that JSON values describe. -/
def Catalog.ofItems (items : List Json) : Except Rejection Catalog :=
  match items.mapM DocumentType.ofJson? with
  | some types => Catalog.ofTypes types
  | none => .error (.invalidCatalog .unreadable)

/-- The catalog that a JSON value describes. -/
def Catalog.ofJson (value : Json) : Except Rejection Catalog :=
  match value.asList? with
  | some items => Catalog.ofItems items
  | none => .error (.invalidCatalog .unreadable)

/-- The catalog that a JSON text describes. Members that describe nothing need only be well
written. -/
def Catalog.ofString (text : String) : Except Rejection Catalog :=
  match Json.chosenItems? DocumentType.memberKeys text with
  | some items => Catalog.ofItems items
  | none => .error (.invalidCatalog .unreadable)

/-- The JSON members that describe the storage of a field. -/
def Storage.toMembers : Storage → List (String × Json)
  | .extracted => [("strategy", .text "json_extracted")]
  | .duplicated column type =>
    [("strategy", .text "duplicated_column"), ("column", .text column),
     ("sql_type", .text type.name)]

/-- The JSON form of a field. -/
def Field.toJson (field : Field) : Json :=
  .record (("path", .text field.path) :: ("kind", .text field.kind.name) ::
    field.storage.toMembers)

/-- The JSON form of a type of documents. -/
def DocumentType.toJson (documentType : DocumentType) : Json :=
  .record
    [("name", .text documentType.name), ("table", .text documentType.table),
     ("id_field", .text documentType.keyPath),
     ("fields", .list (documentType.fields.map Field.toJson))]

end Sieve
