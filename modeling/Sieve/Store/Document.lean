/-
This file defines stored documents and what is done to a document before it is
stored: its key is read or set, instants that must be written in UTC are
checked, and the values of its columns are read out of it.
-/

import Sieve.Catalog.Basic
import Sieve.Filter.Access
import Sieve.Filter.Evaluate

namespace Sieve

open Calendar

/-! ### Errors -/

/-- Why a document cannot be stored. -/
inductive DocumentFault where
  /-- The document is no JSON object. -/
  | notObject
  /-- The document has no key, and keys of its kind are not made up. -/
  | missingKey (typeName path : String)
  /-- The path of the key has no segment. -/
  | emptyPath
  /-- What stands above the key is no object. -/
  | notParent (segment : String)
  /-- The key cannot be set in what is no object. -/
  | notSettable (path : String)
  /-- An instant is not written in UTC. -/
  | notUtc (path text : String)
  deriving DecidableEq

/-- The message for a document that cannot be stored. -/
def DocumentFault.message : DocumentFault → String
  | notObject => "document body must be a JSON object"
  | missingKey typeName path =>
    typeName ++ " has no " ++ path ++ " and ids of this kind are not generated"
  | emptyPath => "empty id path"
  | notParent segment => segment ++ " is not an object"
  | notSettable path => "cannot set " ++ path
  | notUtc path text => path ++ " must be serialized in UTC, got " ++ text

/-- Why a store cannot do what it is asked to. -/
inductive StoreError where
  /-- A predicate is not accepted, or there is no such type. -/
  | rejected (rejection : Rejection)
  /-- There is no document under a key. -/
  | notFound (key : String)
  /-- A document cannot be stored. -/
  | invalidDocument (fault : DocumentFault)
  /-- A value cannot be cast. -/
  | cast (error : CastError)
  deriving DecidableEq

/-- The message for an error of a store. -/
def StoreError.message : StoreError → String
  | rejected rejection => rejection.message
  | notFound key => "document not found: " ++ key
  | invalidDocument fault => "invalid document: " ++ fault.message
  | cast error => error.message

/-- A stored document and the columns that are kept with it. -/
structure Document where
  /-- The name of its type. -/
  typeName : String
  /-- The text of its key. -/
  key : String
  /-- How many documents of its type had been written when it was, itself included. The count is
  not bounded: 64 bits are enough for every count that writes can reach in practice. -/
  version : Nat
  /-- The document itself. -/
  body : Json
  /-- The values of its columns by name. -/
  columns : List (String × Datum)

/-- The row of a document. -/
def Document.row (document : Document) : Row :=
  ⟨document.body, document.columns⟩

/-! ### Keys -/

/-- The pointer to a path of a document. Blanks around the path and the mark of the root before
it are passed over. -/
def pointerOfPath (path : String) : String :=
  let trimmed := (Text.trim path.toList).dropWhile (· == '$')
  Json.pointerOf (pathSegments (String.ofList trimmed))

/-- The text of a key: a text is taken as it is. -/
def keyText : Json → String
  | .text value => value
  | other => other.toText

/-- Sets a value at the end of segments of a JSON value, which is changed on the way down: objects
that are missing are made. The result is whether the value has been set, and what the JSON value
has become by then. The path is named in errors. -/
def Json.insertAt (path : String) (value : Json) :
    List String → Json → Except DocumentFault Unit × Json
  | [], body => (.error .emptyPath, body)
  | [last], .record members => (.ok (), .record (setMember last value members))
  | [_], body => (.error (.notSettable path), body)
  | segment :: rest, .record members =>
    match member? segment members with
    | some present =>
      let (outcome, below) := insertAt path value rest present
      (outcome, .record (replaceMember segment below members))
    | none =>
      let (outcome, below) := insertAt path value rest (.record [])
      (outcome, .record (setMember segment below members))
  | segment :: _, body => (.error (.notParent segment), body)

namespace DocumentType

/-- The key of a document and the document with its key, which is made up if there is none. -/
def keyOf (documentType : DocumentType) (body : Json) (fresh : Uuid) :
    Except DocumentFault (String × Json) :=
  let makeKey : Except DocumentFault (String × Json) :=
    if documentType.key?.map Field.kind = some .uuid then
      match Json.insertAt documentType.keyPath (.text fresh.toText)
        (pathSegments documentType.keyPath) body with
      | (.ok (), keyed) => .ok (fresh.toText, keyed)
      | (.error fault, _) => .error fault
    else .error (.missingKey documentType.name documentType.keyPath)
  match body.lookup? (pointerOfPath documentType.keyPath) with
  | none => makeKey
  | some .null => makeKey
  | some value => .ok (keyText value, body)

end DocumentType

/-! ### Instants in UTC -/

/-- Checks that a field whose instants are always written in UTC has no other offset. -/
def Field.checkUtc (field : Field) (body : Json) : Except DocumentFault Unit :=
  if field.kind = .utc then
    match body.lookup? (pointerOfPath field.path) with
    | some (.text text) =>
      match ZonedTime.ofText? text.toList with
      | some time => if time.offset = 0 then .ok () else .error (.notUtc field.path text)
      | none => .ok ()
    | _ => .ok ()
  else .ok ()

/-! ### Columns -/

/-- The value that the column of a field has for a document. A column of texts keeps the values
of other kinds by their own texts, in which literals are bound too. -/
def Field.columnValue (field : Field) (type : ColumnType) (body : Json) :
    Except CastError Datum := do
  let text ← field.textSource.evaluate ⟨body, []⟩
  match field.kind.jsonCast? with
  | some typed =>
    if type = .text then do
      let value ← text.cast typed
      value.cast .text
    else text.cast type
  | none => text.cast type

/-- The values of the columns of some fields for a document, in the order of the fields. -/
def columnsOf (body : Json) : List Field → Except CastError (List (String × Datum))
  | [] => pure []
  | field :: rest =>
    match field.storage with
    | .extracted => columnsOf body rest
    | .duplicated column type => do
      let value ← field.columnValue type body
      let others ← columnsOf body rest
      pure ((column, value) :: others)

end Sieve
