/-
This file defines catalogs. A catalog holds descriptions of types of documents
that have passed a check, each under its own name, so that whoever has a catalog
can rely on the rules of the check: paths without empty segments, no path and no
column used twice in a type, columns that can keep their fields, and a key that
is a field.
-/

import Sieve.Catalog.Rejection
import Sieve.Catalog.Field

namespace Sieve

namespace DocumentType

/-- Checks fields one after another, given the paths and the columns used before them. -/
def checkFields (typeName : String) (paths columns : List String) :
    List Field → Except Rejection Unit
  | [] => .ok ()
  | field :: rest =>
    if isMalformedPath field.path then
      .error (.invalidCatalog (.malformedPath typeName field.path))
    else if field.path ∈ paths then
      .error (.invalidCatalog (.repeatedField typeName field.path))
    else
      match field.storage with
      | .extracted => checkFields typeName (field.path :: paths) columns rest
      | .duplicated column type =>
        if column ∈ columns then
          .error (.invalidCatalog (.repeatedColumn typeName column))
        else if !field.kind.canStoreIn type then
          .error (.storageMismatch field.path column type field.kind .storage)
        else checkFields typeName (field.path :: paths) (column :: columns) rest

/-- Checks the description of a type: its names, then its fields in order, then its key. -/
def check (documentType : DocumentType) : Except Rejection Unit :=
  if documentType.name.isEmpty ∨ documentType.table.isEmpty then
    .error (.invalidCatalog .unnamed)
  else
    match checkFields documentType.name [] [] documentType.fields with
    | .error error => .error error
    | .ok () =>
      if documentType.key?.isNone then
        .error (.invalidCatalog (.undeclaredKey documentType.name documentType.keyPath))
      else .ok ()

end DocumentType

/-- Types of documents that have passed the check, with names of their own. -/
structure Catalog where
  /-- The types, in the order in which they were registered. -/
  types : List DocumentType
  /-- Every type has passed the check. -/
  checked : ∀ documentType ∈ types, documentType.check = .ok ()
  /-- No two types have one name. -/
  distinct : (types.map DocumentType.name).Nodup

namespace Catalog

/-- The catalog without types. -/
def empty : Catalog where
  types := []
  checked := by simp
  distinct := by simp

/-- A catalog with one more type, if the type passes the check and its name is not used. -/
def register (catalog : Catalog) (documentType : DocumentType) :
    Except Rejection Catalog :=
  match passed : documentType.check with
  | .error error => .error error
  | .ok () =>
    if used : documentType.name ∈ catalog.types.map DocumentType.name then
      .error (.invalidCatalog (.repeatedType documentType.name))
    else
      .ok
        { types := catalog.types ++ [documentType]
          checked := by
            intro other member
            rcases List.mem_append.1 member with before | here
            · exact catalog.checked other before
            · rw [List.mem_singleton.1 here]
              exact passed
          distinct := by
            rw [List.map_append, List.nodup_append]
            refine ⟨catalog.distinct, by simp, ?_⟩
            intro left leftMember right rightMember same
            simp only [List.map_cons, List.map_nil, List.mem_singleton] at rightMember
            exact used (rightMember ▸ same ▸ leftMember) }

/-- The catalog of a list of types, or the first error among them. -/
def ofTypes (types : List DocumentType) : Except Rejection Catalog :=
  types.foldlM register empty

/-- The type of a name. -/
def describe (catalog : Catalog) (typeName : String) : Except Rejection DocumentType :=
  match catalog.types.find? fun documentType => documentType.name == typeName with
  | some documentType => .ok documentType
  | none => .error (.unknownType typeName)

/-- The field of a type at a path. -/
def resolve (catalog : Catalog) (typeName path : String) : Except Rejection Field :=
  match catalog.describe typeName with
  | .error error => .error error
  | .ok documentType =>
    match documentType.field? path with
    | some field => .ok field
    | none => .error (.unknownField typeName path)

end Catalog

end Sieve
