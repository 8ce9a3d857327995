/-
This file says what is read when a field is read from a stored row. A document gives
a field a text, and the kind of the field casts it to a value. A field without a
column is read by that cast, which may fail. A field with a column is read from the
column, which holds what was made of the same text when the document was stored, so
reading it cannot fail, and neither can bringing it to the type in which fields of
its kind are compared.
-/

import Sieve.Proofs.Datum.Kept
import Sieve.Proofs.Filter.Access
import Sieve.Proofs.Store.Run

namespace Sieve

open Calendar Outcome

namespace Field

/-! ### The text and the value of a field -/

/-- The text that a document has for a field, or null. -/
def text (field : Field) (body : Json) : Datum :=
  match body.lookup? (Json.pointerOf (pathSegments field.path)) with
  | some found => found.extracted
  | none => .null

/-- The value that a document has for a field, wherever the field is stored. -/
def value (field : Field) (body : Json) : Except CastError Datum :=
  match field.kind.jsonCast? with
  | some type => (field.text body).cast type
  | none => .ok (field.text body)

/-- The text that a document has for a field cannot be cast to the type that its kind reads. -/
def Unreadable (field : Field) (body : Json) (error : CastError) : Prop :=
  ∃ content type, field.text body = .text content ∧ field.kind.jsonCast? = some type ∧
    (Datum.text content).cast? type = none ∧ error = ⟨.text content, type⟩

variable {field : Field} {body : Json} {row : Row} {type : ColumnType} {result : Datum}

theorem evaluate_textSource (field : Field) (row : Row) :
    field.textSource.evaluate row = .ok (field.text row.body) := by
  rw [textSource, Source.evaluate, text]
  cases row.body.lookup? (Json.pointerOf (pathSegments field.path)) <;> rfl

theorem text_eq_null_or_text (field : Field) (body : Json) :
    field.text body = .null ∨ ∃ content, field.text body = .text content := by
  rw [text]
  split
  · rename_i found _
    cases found <;> first | exact .inl rfl | exact .inr ⟨_, rfl⟩
  · exact .inl rfl

/-- The value of a field depends on its path and its kind alone. -/
theorem value_congr {other : Field} (path : field.path = other.path)
    (kind : field.kind = other.kind) (body : Json) : field.value body = other.value body := by
  rw [value, value, text, text, path, kind]

theorem value_eq_cast (cast : field.kind.jsonCast? = some type) (body : Json) :
    field.value body = (field.text body).cast type := by
  rw [value, cast]

theorem fits_of_value (read : field.value body = .ok result) :
    result.fits field.kind.defaultColumnType = true := by
  rw [Field.value] at read
  rw [Kind.defaultColumnType]
  split at read
  · rename_i type cast
    rw [cast]
    exact Datum.fits_of_cast? (Datum.cast_eq_ok.mp read)
  · rename_i kept
    rw [kept, ← Except.ok.inj read]
    rcases field.text_eq_null_or_text body with null | ⟨content, found⟩
    · rw [null]
      rfl
    · rw [found]
      rfl

/-- A field has no value only where its text is unreadable. -/
theorem unreadable_of_value {error : CastError} (failed : field.value body = .error error) :
    field.Unreadable body error := by
  rw [value] at failed
  split at failed
  · rename_i type cast
    obtain ⟨stuck, rfl⟩ := Datum.cast_eq_error.mp failed
    rcases field.text_eq_null_or_text body with null | ⟨content, found⟩
    · rw [null, Datum.cast?_null] at stuck
      exact absurd stuck (by simp)
    · rw [found] at stuck ⊢
      exact ⟨content, type, found, cast, stuck, rfl⟩
  · exact absurd failed (by simp)

/-! ### Columns -/

/-- What the column of a field has for a document, in terms of the text of the field. -/
theorem columnValue_eq (field : Field) (type : ColumnType) (body : Json) :
    field.columnValue type body =
      match field.kind.jsonCast? with
      | some typed =>
        if type = .text then (field.text body).cast typed >>= fun value => value.cast .text
        else (field.text body).cast type
      | none => (field.text body).cast type := by
  rw [columnValue, evaluate_textSource]
  rfl

theorem columnValue_eq_cast {typed : ColumnType} (cast : field.kind.jsonCast? = some typed)
    (apart : type ≠ .text) (body : Json) :
    field.columnValue type body = (field.text body).cast type := by
  rw [columnValue_eq, cast]
  exact if_neg apart

theorem fits_of_columnValue (made : field.columnValue type body = .ok result) :
    result.fits type = true := by
  rw [columnValue_eq] at made
  split at made
  · split at made
    · rename_i typed
      obtain ⟨_, _, done⟩ := bind_eq_ok.mp made
      rw [typed]
      exact Datum.fits_of_cast? (Datum.cast_eq_ok.mp done)
    · exact Datum.fits_of_cast? (Datum.cast_eq_ok.mp made)
  · exact Datum.fits_of_cast? (Datum.cast_eq_ok.mp made)

/-- A column of texts holds the value of a field of another kind by its text. -/
theorem value_of_columnValue_text (spelled : field.kind.spelled = true)
    (made : field.columnValue .text body = .ok result) :
    ∃ typed, field.value body = .ok typed ∧ result = typed.keptIn .text := by
  obtain ⟨type, cast⟩ : ∃ type, field.kind.jsonCast? = some type := by
    cases kind : field.kind <;> rw [kind] at spelled <;> first
      | exact ⟨_, rfl⟩
      | exact absurd spelled Bool.false_ne_true
  rw [columnValue_eq, cast] at made
  obtain ⟨typed, found, done⟩ := bind_eq_ok.mp made
  rw [← value_eq_cast cast] at found
  refine ⟨typed, found, ?_⟩
  rcases Datum.fits_iff.mp (fits_of_value found) with rfl | isOf
  · exact (Option.some.inj (Datum.cast_eq_ok.mp done)).symm
  · have texts := Datum.cast?_text isOf (Kind.spelled_defaultColumnType spelled)
    rw [Datum.cast_eq_ok, texts] at done
    exact (Option.some.inj done).symm

/-! ### Rows -/

/-- A row that has the column of a field, if the field has one, as the document gives it. -/
structure HeldBy (field : Field) (row : Row) : Prop where
  /-- The column can keep the kind of the field. -/
  storable : field.Storable
  /-- The column has the value that is computed for the field. -/
  column : ∀ column type, field.column? = some (column, type) →
    field.columnValue type row.body = .ok (row.column column)

/-- The row of a stored document has the columns of the fields of its type. -/
theorem heldBy_of_stores {documentType : DocumentType} {document : Document}
    (valid : documentType.Valid) (stores : documentType.Stores document)
    (member : field ∈ documentType.fields) : field.HeldBy document.row where
  storable := valid.fields.storable field member
  column := fun _ _ stored => stores.column valid member stored

/-- A field without a column is read as the value that the document has for it. -/
theorem evaluate_access_of_extracted (extracted : field.column? = none) (row : Row) :
    field.access.source.evaluate row = field.value row.body := by
  rw [access_of_extracted extracted, value]
  cases field.kind.jsonCast? with
  | none => exact field.evaluate_textSource row
  | some type =>
    show Source.evaluate row (.cast field.textSource type) = (field.text row.body).cast type
    rw [Source.evaluate, evaluate_textSource, ok_bind]

/-- A field with a column is read from it. -/
theorem evaluate_access_of_column {column : String} (stored : field.column? = some (column, type))
    (row : Row) : field.access.source.evaluate row = .ok (row.column column) := by
  rw [access_of_column stored]
  rfl

/-- The column of a field of texts holds texts. -/
theorem column_type_of_string (strings : field.kind = .string) (storable : field.Storable)
    {column : String} (stored : field.column? = some (column, type)) : type = .text := by
  have stores := storable column type stored
  rw [strings] at stores
  cases type <;> first | rfl | exact absurd stores Bool.false_ne_true

/-- A field of texts is read as the text that the document has for it. -/
theorem evaluate_access_of_string (texts : field.kind = .string) (held : field.HeldBy row) :
    field.access.source.evaluate row = .ok (field.text row.body) := by
  have cast : field.kind.jsonCast? = none := by rw [texts]; rfl
  cases stored : field.column? with
  | none => rw [evaluate_access_of_extracted stored, value, cast]
  | some column =>
    obtain ⟨name, type⟩ := column
    have made := held.column name type stored
    rw [columnValue_eq, cast, column_type_of_string texts held.storable stored] at made
    rw [evaluate_access_of_column stored, ← made]
    rcases field.text_eq_null_or_text row.body with none | ⟨content, some⟩
    · rw [none]
      rfl
    · rw [some]
      rfl

@[simp]
theorem broughtTo_path (access : Access) (type : ColumnType) :
    (access.broughtTo type).path = access.path := by
  rw [Access.broughtTo]
  split
  · rfl
  · split <;> rfl

theorem canStoreIn_access_type (storable : field.Storable) :
    field.kind.canStoreIn field.access.type = true := by
  cases stored : field.column? with
  | none =>
    rw [access_of_extracted stored]
    exact field.kind.canStoreIn_defaultColumnType
  | some column =>
    rw [access_of_column stored]
    exact storable column.1 column.2 stored

/-- A field of a row is read as a value of the type of the column, or its text is unreadable and
it has no column. -/
theorem evaluate_access_cases (held : field.HeldBy row) :
    (∃ value, field.access.source.evaluate row = .ok value ∧
        value.fits field.access.type = true) ∨
      ∃ error, field.access.source.evaluate row = .error error ∧ field.column? = none ∧
        field.Unreadable row.body error := by
  cases stored : field.column? with
  | none =>
    rw [evaluate_access_of_extracted stored, access_of_extracted stored]
    cases read : field.value row.body with
    | ok value => exact .inl ⟨value, rfl, fits_of_value read⟩
    | error error => exact .inr ⟨error, rfl, rfl, unreadable_of_value read⟩
  | some column =>
    rw [evaluate_access_of_column stored, access_of_column stored]
    exact .inl ⟨_, rfl, fits_of_columnValue (held.column column.1 column.2 stored)⟩

/-! ### Fields brought to the type of their kind -/

/-- How a field is brought to the type in which its kind is compared: its column is of such a
type, it keeps instants as wall clocks, or it keeps texts that stand for values. -/
theorem broughtTo_comparisonType (storable : field.Storable) :
    field.access.broughtTo field.kind.comparisonType = field.access ∧
        field.access.type.comparesWith field.kind.comparisonType = true ∨
      (field.kind = .utc ∧ field.access.type = .timestamp ∧
        field.access.broughtTo field.kind.comparisonType =
          ⟨field.path, field.kind, .atUtc field.access.source, .timestampTz⟩) ∨
      ∃ column, field.column? = some (column, .text) ∧ field.kind.spelled = true ∧
        field.access.broughtTo field.kind.comparisonType =
          ⟨field.path, field.kind, .cast field.access.source field.kind.defaultColumnType,
            field.kind.defaultColumnType⟩ := by
  have kept := canStoreIn_access_type storable
  by_cases compares : field.access.type.comparesWith field.kind.comparisonType = true
  · exact .inl ⟨by rw [Access.broughtTo, if_pos compares], compares⟩
  refine .inr ?_
  by_cases zoned : field.kind = .utc ∧ field.access.type = .timestamp
  · refine .inl ⟨zoned.1, zoned.2, ?_⟩
    rw [Access.broughtTo, if_neg compares, access_kind, if_pos zoned, zoned.1, access_path]
    rfl
  · have facts : field.access.type = .text ∧ field.kind.spelled = true ∧
        field.kind.comparisonType = field.kind.defaultColumnType := by
      generalize field.access.type = type at kept compares zoned
      generalize field.kind = kind at kept compares zoned
      cases kind <;> cases type <;> first
        | exact ⟨rfl, rfl, rfl⟩
        | exact absurd rfl compares
        | exact absurd ⟨rfl, rfl⟩ zoned
        | exact absurd kept Bool.false_ne_true
    obtain ⟨texts, spelled, same⟩ := facts
    cases stored : field.column? with
    | none =>
      rw [access_of_extracted stored] at texts
      have read := Kind.spelled_defaultColumnType spelled
      rw [show field.kind.defaultColumnType = .text from texts] at read
      exact absurd read (by decide)
    | some column =>
      refine .inr ⟨column.1, ?_, spelled, ?_⟩
      · rw [access_of_column stored] at texts
        rw [← show column.2 = .text from texts]
      · rw [Access.broughtTo, if_neg compares, access_kind, if_neg zoned, same, access_path]

end Field

end Sieve
