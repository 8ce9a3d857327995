/-
This file proves that a field of a stored document is read as what is kept of its
value, wherever the field is stored. The column of a field was made of the same text
that the value is cast from: it keeps the value as it is, by a text that stands for
it, or as another type of point in time. The last needs instants to be written in UTC,
since a wall clock keeps what is written and not the offset.
-/

import Sieve.Proofs.Calendar.Offsets
import Sieve.Proofs.Filter.Reading

namespace Sieve

open Calendar Outcome

namespace Field

/-! ### What columns hold -/

/-- An instant that is always written in UTC has, where a document has a text for it, no other
offset. -/
def InUtc (field : Field) (body : Json) : Prop :=
  field.kind = .utc → ∀ content, field.text body = .text content →
    ∀ time, ZonedTime.ofText? (Text.trim content.toList) = some time → time.offset = 0

variable {field : Field} {body : Json} {row : Row} {type : ColumnType} {result : Datum}

theorem columnValue_defaultColumnType (field : Field) (body : Json) :
    field.columnValue field.kind.defaultColumnType body = field.value body := by
  rw [columnValue_eq, value, Kind.defaultColumnType]
  cases cast : field.kind.jsonCast? with
  | none =>
    rcases field.text_eq_null_or_text body with null | ⟨content, found⟩
    · rw [null]
      rfl
    · rw [found]
      rfl
  | some type =>
    have typed : type ≠ .text := by
      generalize field.kind = kind at cast
      rintro rfl
      cases kind <;> exact absurd cast (by decide)
    exact if_neg typed

/-- A number of 32 bits is the same number of 64 bits. -/
theorem value_of_columnValue_integer (numbers : field.kind = .integer)
    (made : field.columnValue .integer body = .ok result) : field.value body = .ok result := by
  have cast : field.kind.jsonCast? = some .bigint := by rw [numbers]; rfl
  rw [columnValue_eq_cast cast (by decide), Datum.cast_eq_ok] at made
  rw [value_eq_cast cast, Datum.cast_eq_ok]
  rcases field.text_eq_null_or_text body with null | ⟨content, found⟩
  · rw [null, Datum.cast?_null] at made
    rw [null, Datum.cast?_null, made]
  · rw [found] at made ⊢
    obtain ⟨integer, narrow, rfl⟩ := Option.map_eq_some_iff.mp made
    exact Option.map_eq_some_iff.mpr ⟨_, Text.readInt64?_of_readInt32? narrow, rfl⟩

/-- An instant written in UTC is the wall clock that it is written with. -/
theorem value_of_columnValue_timestampTz (zoned : field.kind = .utc) (utc : field.InUtc body)
    (made : field.columnValue .timestampTz body = .ok result) :
    ∃ read, field.value body = .ok read ∧ result = read.keptAs .timestampTz := by
  have cast : field.kind.jsonCast? = some .timestamp := by rw [zoned]; rfl
  rw [columnValue_eq_cast cast (by decide), Datum.cast_eq_ok] at made
  rw [value_eq_cast cast]
  rcases field.text_eq_null_or_text body with null | ⟨content, found⟩
  · rw [null] at made ⊢
    exact ⟨.null, rfl, (Option.some.inj made).symm⟩
  · have same := (WallClock.ofText?_eq_iff _).mpr (utc zoned content found)
    rw [found] at made ⊢
    obtain ⟨instant, read, rfl⟩ := Option.map_eq_some_iff.mp made
    rw [read, Option.map_some] at same
    refine ⟨.timestamp instant.utc, Datum.cast_eq_ok.mpr ?_, rfl⟩
    exact Option.map_eq_some_iff.mpr ⟨_, same, rfl⟩

/-- The column of a field holds what is kept of its value. -/
theorem value_of_columnValue (storable : field.kind.canStoreIn type = true)
    (utc : field.InUtc body) (made : field.columnValue type body = .ok result) :
    ∃ read, field.value body = .ok read ∧ result = read.keptAs type := by
  rcases Kind.canStoreIn_cases storable with plain | ⟨rfl, spelled⟩ | ⟨rfl, numbers⟩ | ⟨rfl, zoned⟩
  · rw [plain, columnValue_defaultColumnType] at made
    exact ⟨result, made, by rw [plain, Datum.keptAs_defaultColumnType (fits_of_value made)]⟩
  · exact value_of_columnValue_text spelled made
  · exact ⟨result, value_of_columnValue_integer numbers made, rfl⟩
  · exact value_of_columnValue_timestampTz zoned utc made

/-! ### What is read -/

/-- Wherever a field is stored, what is kept of its value is read. -/
theorem evaluate_access (held : field.HeldBy row) (utc : field.InUtc row.body) :
    field.access.source.evaluate row =
      (field.value row.body).map (Datum.keptAs field.access.type) := by
  cases stored : field.column? with
  | none =>
    rw [evaluate_access_of_extracted stored, access_of_extracted stored]
    cases read : field.value row.body with
    | error error => rfl
    | ok value => exact congrArg _ (Datum.keptAs_defaultColumnType (fits_of_value read)).symm
  | some column =>
    obtain ⟨read, found, kept⟩ := value_of_columnValue (held.storable _ _ stored) utc
      (held.column column.1 column.2 stored)
    rw [evaluate_access_of_column stored, access_of_column stored, found, kept]
    rfl

/-- Brought to the type in which its kind is compared, a field is read as what is kept of its
value by that type. -/
theorem evaluate_broughtTo (held : field.HeldBy row) (utc : field.InUtc row.body) :
    (field.access.broughtTo field.kind.comparisonType).source.evaluate row =
      (field.value row.body).map (Datum.keptAs field.kind.comparisonType) := by
  have stored := evaluate_access held utc
  rcases broughtTo_comparisonType held.storable with
    ⟨same, comparable⟩ | ⟨zoned, clocked, brought⟩ | ⟨column, texts, spelled, brought⟩
  · rw [same, stored]
    have kept := canStoreIn_access_type held.storable
    congr 1
    generalize field.access.type = type at kept comparable
    generalize field.kind = kind at kept comparable
    cases kind <;> cases type <;> first
      | rfl
      | exact absurd kept Bool.false_ne_true
      | exact absurd comparable Bool.false_ne_true
  · rw [brought, Source.evaluate, stored, clocked, zoned]
    cases read : field.value row.body with
    | error error => rfl
    | ok value =>
      have fits := fits_of_value read
      rw [zoned] at fits
      cases value <;> first | rfl | exact absurd fits Bool.false_ne_true
  · obtain ⟨value, found, kept⟩ :=
      value_of_columnValue_text spelled (held.column column .text texts)
    have fits := fits_of_value found
    have plain : field.kind.comparisonType = field.kind.defaultColumnType := by
      generalize field.kind = kind at spelled
      cases kind <;> first | rfl | exact absurd spelled Bool.false_ne_true
    rw [brought, Source.evaluate, evaluate_access_of_column texts, ok_bind, kept, found, plain]
    show (value.keptIn .text).cast field.kind.defaultColumnType = .ok (value.keptAs _)
    rw [Datum.cast_keptIn_text fits spelled, Datum.keptAs_defaultColumnType fits]

/-- A judgement of what is read of a field is one of its value, where keeping a value does not
change the judgement. -/
theorem bind_evaluate_access (held : field.HeldBy row) (utc : field.InUtc row.body)
    {leaf judgement : Datum → Truth}
    (same : ∀ value, value.fits field.kind.defaultColumnType = true →
      leaf (value.keptAs field.access.type) = judgement value) :
    (field.access.source.evaluate row >>= fun value => pure (leaf value)) =
      (field.value row.body).map judgement := by
  rw [evaluate_access held utc]
  cases read : field.value row.body with
  | error error => rfl
  | ok value => exact congrArg _ (same value (fits_of_value read))

/-- A column that answers an ordering orders like the kind of its field. -/
theorem ordersLike_of_literalAccess {operator : Operator} {access : Access}
    (accessed : field.literalAccess operator = .ok access)
    (ordering : operator.operatorClass = .ordering) :
    field.access.type.ordersLike field.kind = true := by
  obtain ⟨_, answered, _⟩ := literalAccess_eq_ok.mp accessed
  cases stored : field.column? with
  | none =>
    rw [access_of_extracted stored]
    exact field.kind.ordersLike_defaultColumnType
  | some column =>
    obtain ⟨_, answers⟩ := answered column.1 column.2 stored
    rw [Field.answers, ordering] at answers
    rw [access_of_column stored]
    exact answers

end Field

end Sieve
