/-
This file describes types of documents step by step. A new description has a
table named after the type and an identifier for its key; the steps add fields,
give columns to fields that were declared before, and replace the table or the
key. The first step that cannot be done is what the description fails with.
-/

import Sieve.Catalog.Basic

namespace Sieve

/-- A description that is being made. -/
structure Mapping where
  /-- The description so far. -/
  documentType : DocumentType
  /-- The error of the first step that could not be done. -/
  error? : Option Rejection

namespace Mapping

/-- The description that every type begins with: a table named after the type, and an identifier
`Id` in the column `id` for its key. -/
def start (name : String) : Mapping where
  documentType :=
    { name := name
      table := "mt_doc_" ++ String.ofList (name.toList.map Text.lowerAscii)
      keyPath := "Id"
      fields := [⟨"Id", .uuid, .duplicated "id" .uuid⟩] }
  error? := none

/-- Changes the description so far. -/
def change (mapping : Mapping) (step : DocumentType → DocumentType) : Mapping :=
  { mapping with documentType := step mapping.documentType }

/-- Replaces the table. -/
def inTable (mapping : Mapping) (table : String) : Mapping :=
  mapping.change fun documentType => { documentType with table := table }

/-- Replaces the key by a new field, kept in the column `id`. -/
def keyedBy (mapping : Mapping) (path : String) (kind : Kind) : Mapping :=
  mapping.change fun documentType =>
    { documentType with
      keyPath := path
      fields := ⟨path, kind, .duplicated "id" kind.defaultColumnType⟩ ::
        documentType.fields.filter fun field => field.path != documentType.keyPath }

/-- Declares a field that is stored inside the document alone. -/
def withField (mapping : Mapping) (path : String) (kind : Kind) : Mapping :=
  mapping.change fun documentType =>
    { documentType with fields := documentType.fields ++ [⟨path, kind, .extracted⟩] }

/-- The fields with the first one at a path stored elsewhere. -/
def storeFirst (path : String) (storage : Storage) : List Field → List Field
  | [] => []
  | field :: rest =>
    if field.path = path then { field with storage := storage } :: rest
    else field :: storeFirst path storage rest

/-- Gives a declared field a column of a name and type. -/
def duplicateAs (mapping : Mapping) (path column : String) (type : ColumnType) : Mapping :=
  if (mapping.documentType.field? path).isSome then
    mapping.change fun documentType =>
      { documentType with
        fields := storeFirst path (.duplicated column type) documentType.fields }
  else
    { mapping with
      error? := mapping.error?.or (some (.unknownField mapping.documentType.name path)) }

/-- Gives a declared field a column named after its path and typed by its kind. -/
def duplicate (mapping : Mapping) (path : String) : Mapping :=
  let type :=
    match mapping.documentType.field? path with
    | some field => field.kind.defaultColumnType
    | none => .text
  mapping.duplicateAs path (columnNameOf path) type

/-- The finished description, or its first error. -/
def finish (mapping : Mapping) : Except Rejection DocumentType :=
  match mapping.error? with
  | some error => .error error
  | none => .ok mapping.documentType

end Mapping

/-- The catalog of descriptions that were made step by step. -/
def Catalog.ofMappings (mappings : List Mapping) : Except Rejection Catalog := do
  let types ← mappings.mapM Mapping.finish
  Catalog.ofTypes types

end Sieve
