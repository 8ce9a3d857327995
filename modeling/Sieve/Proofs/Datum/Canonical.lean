/-
This file proves that casts settle. What a cast gives is null only for null, else it
is a value of the type, and casting it to the type again changes nothing. Integers,
truth values and identifiers have one text each: casting a value to a text gives it,
and casting the text back gives the value. So a text that spells a value in any other
way is brought to the text of the value by a cast to its type and one to texts, and
texts made in this way are equal exactly where the values are.
-/

import Sieve.Proofs.Datum.Typed

namespace Sieve

namespace Datum

variable {type : ColumnType} {value result left right : Datum}

/-! ### Casting again -/

theorem isOf_null (type : ColumnType) : null.isOf type = false := by
  cases type <;> rfl

/-- A value of a type is cast to the type unchanged. -/
theorem cast?_of_isOf (typed : value.isOf type = true) : value.cast? type = some value := by
  cases type with
  | integer =>
    cases value with
    | int content => exact if_pos (of_decide_eq_true typed)
    | _ => exact absurd typed Bool.false_ne_true
  | _ => cases value <;> first | exact absurd typed Bool.false_ne_true | rfl

/-- The values that a cast leaves unchanged are those that a column of its target can hold. -/
theorem cast_eq_self_iff : value.cast type = .ok value ↔ value.fits type = true := by
  rw [cast_eq_ok]
  constructor
  · exact fits_of_cast?
  · intro valueFits
    rcases fits_iff.mp valueFits with rfl | typed
    · exact cast?_null type
    · exact cast?_of_isOf typed

/-- A cast gives null for null alone. -/
theorem eq_null_iff_of_cast (done : value.cast type = .ok result) :
    result = null ↔ value = null := by
  rw [cast_eq_ok] at done
  constructor
  · rintro rfl
    by_contra present
    exact absurd ((isOf_null type).symm.trans (isOf_of_cast? present done)) Bool.false_ne_true
  · rintro rfl
    exact Option.some.inj (done.symm.trans (cast?_null type))

/-! ### The text of a value -/

/-- A value with a text of its own is cast to the text, and the text is cast back to it. -/
theorem exists_text_of_isOf (typed : value.isOf type = true) (spelled : type.spelled = true) :
    ∃ content, value.cast .text = .ok (text content) ∧ (text content).cast type = .ok value := by
  have shown : ∃ content, value.keptIn .text = text content := by
    cases type <;> first
      | exact absurd spelled Bool.false_ne_true
      | (cases value <;> first | exact absurd typed Bool.false_ne_true | exact ⟨_, rfl⟩)
  obtain ⟨content, kept⟩ := shown
  refine ⟨content, ?_⟩
  rw [cast_eq_ok, cast_eq_ok, ← kept]
  exact ⟨cast?_text typed spelled, cast?_keptIn_text typed spelled⟩

/-- Values of a type that are cast to one text are one value. -/
theorem eq_of_cast_text (leftTyped : left.isOf type = true) (rightTyped : right.isOf type = true)
    (spelled : type.spelled = true) (same : left.cast .text = right.cast .text) : left = right := by
  obtain ⟨content, shown, read⟩ := exists_text_of_isOf leftTyped spelled
  obtain ⟨other, otherShown, otherRead⟩ := exists_text_of_isOf rightTyped spelled
  rw [shown, otherShown, Except.ok.injEq] at same
  rw [← same, read] at otherRead
  exact Except.ok.inj otherRead

/-- What a cast gives is null exactly for null, else a value of the type, and the cast leaves it
unchanged. Where the values of the type have texts of their own, it is cast to a text that is cast
back to it, and no other value of the type is cast to this text. -/
theorem cast_settles (done : value.cast type = .ok result) :
    (result = null ↔ value = null) ∧
    (result ≠ null → result.isOf type = true) ∧
    result.cast type = .ok result ∧
    (type.spelled = true → result ≠ null →
      ∃ content, result.cast .text = .ok (text content) ∧
        (text content).cast type = .ok result ∧
        ∀ other, other.isOf type = true → other.cast .text = .ok (text content) →
          other = result) := by
  have resultFits := fits_of_cast? (cast_eq_ok.mp done)
  have typed (present : result ≠ null) : result.isOf type = true :=
    (fits_iff.mp resultFits).resolve_left present
  refine ⟨eq_null_iff_of_cast done, typed, cast_eq_self_iff.mpr resultFits,
    fun spelled present => ?_⟩
  obtain ⟨content, shown, read⟩ := exists_text_of_isOf (typed present) spelled
  exact ⟨content, shown, read, fun other otherTyped otherShown =>
    eq_of_cast_text otherTyped (typed present) spelled (otherShown.trans shown.symm)⟩

/-- The least integer of thirty-two bits, with a blank and a zero before its digits, is read and
keeps its value as an integer and as a text. -/
theorem cast_settles_least_integer :
    (text " -02147483648").cast .integer = .ok (int (-2147483648)) ∧
    int (-2147483648) ≠ null ∧ (int (-2147483648)).isOf .integer = true ∧
    (int (-2147483648)).cast .integer = .ok (int (-2147483648)) ∧
    ∃ content, (int (-2147483648)).cast .text = .ok (text content) ∧
      (text content).cast .integer = .ok (int (-2147483648)) ∧
      ∀ other, other.isOf .integer = true → other.cast .text = .ok (text content) →
        other = int (-2147483648) := by
  have done : (text " -02147483648").cast .integer = .ok (int (-2147483648)) := rfl
  have present : int (-2147483648) ≠ null := nofun
  obtain ⟨_, typed, again, spells⟩ := cast_settles done
  exact ⟨done, present, typed present, again, spells rfl present⟩

end Datum

end Sieve
