/-
This file defines a store of documents in memory. The documents stand in the
order in which they were last written; a document is found by the name of its
type and the text of its key, and a new one replaces an old one that has both.
What changes the store gives it back beside the outcome, also where it fails.
Queries are answered by evaluating filters.
-/

import Sieve.Planner
import Sieve.Store.Document

namespace Sieve

/-- A store of documents. -/
structure Store where
  /-- What plans the queries. -/
  planner : Planner
  /-- The documents, the one written last at the end. -/
  documents : List Document
  /-- How many documents of each type have been written. -/
  writes : List (String × Nat)

namespace Store

/-- A store without documents. -/
def empty (planner : Planner) : Store :=
  ⟨planner, [], []⟩

/-- How many documents of a type have been written. -/
def writeCount (store : Store) (typeName : String) : Nat :=
  ((store.writes.find? fun entry => entry.1 == typeName).map (·.2)).getD 0

/-- Whether a document is the one of a type under a key. -/
def holds (typeName key : String) (document : Document) : Bool :=
  document.typeName == typeName && document.key == key

/-- A store in which a document has been written. -/
def write (store : Store) (document : Document) : Store :=
  { store with
    documents :=
      (store.documents.filter fun other => !holds document.typeName document.key other) ++
        [document]
    writes :=
      (document.typeName, document.version) ::
        store.writes.filter fun entry => entry.1 != document.typeName }

/-- The document that is made of a JSON value to be stored, given a fresh key in case it has
none. -/
def prepare (store : Store) (typeName : String) (body : Json) (fresh : Uuid) :
    Except StoreError Document := do
  let documentType ← (store.planner.catalog.describe typeName).mapError .rejected
  match body with
  | .record _ =>
    let (key, body) ← (documentType.keyOf body fresh).mapError .invalidDocument
    (documentType.fields.forM fun field => field.checkUtc body).mapError .invalidDocument
    let columns ← (columnsOf body documentType.fields).mapError .cast
    pure ⟨typeName, key, store.writeCount typeName + 1, body, columns⟩
  | _ => .error (.invalidDocument .notObject)

/-- Stores a JSON value as a document of a type. The result is the document, or why there is none,
and what the store has become. -/
def put (store : Store) (typeName : String) (body : Json) (fresh : Uuid) :
    Except StoreError Document × Store :=
  match store.prepare typeName body fresh with
  | .ok document => (.ok document, store.write document)
  | .error error => (.error error, store)

/-- The document of a type under a key. -/
def get (store : Store) (typeName key : String) : Except StoreError Document :=
  match store.documents.find? (holds typeName key) with
  | some document => .ok document
  | none => .error (.notFound key)

/-- Removes the document of a type under a key. The result is whether there was one, and what the
store has become. -/
def delete (store : Store) (typeName key : String) : Except StoreError Unit × Store :=
  (if store.documents.any (holds typeName key) then .ok () else .error (.notFound key),
    { store with
      documents := store.documents.filter fun document => !holds typeName key document })

/-- All documents of a type, the one written last at the end. -/
def all (store : Store) (typeName : String) : List Document :=
  store.documents.filter fun document => document.typeName == typeName

/-- The documents of which a filter is true, in their order. -/
def matching (filter : Filter) : List Document → Except CastError (List Document)
  | [] => pure []
  | document :: rest => do
    let truth ← filter.evaluate document.row
    let others ← matching filter rest
    pure (if truth = some true then document :: others else others)

/-- The documents of a type of which a filter is true. -/
def queryFilter (store : Store) (typeName : String) (filter : Filter) :
    Except StoreError (List Document) := do
  let _ ← (store.planner.catalog.describe typeName).mapError .rejected
  (matching filter (store.all typeName)).mapError .cast

/-- The documents of a type of which what is asked holds. -/
def query (store : Store) (typeName : String) (predicate? : Option Predicate) :
    Except StoreError (List Document) := do
  let filter ← (store.planner.compile typeName predicate?).mapError .rejected
  store.queryFilter typeName filter

/-- The count of the documents of a type of which what is asked holds. -/
def count (store : Store) (typeName : String) (predicate? : Option Predicate) :
    Except StoreError Nat := do
  let documents ← store.query typeName predicate?
  pure documents.length

end Store

end Sieve
