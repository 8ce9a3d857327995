/-
This file says which values belong to an SQL type and proves what follows. A cast
that succeeds gives a value of its target, or null for null. Two values of types
that compare fail to compare only where one is null or no number. The text that a
column of texts keeps for a value of another type is cast back to the value, so it
stands for no other value of the type.
-/

import Sieve.Datum.Cast
import Sieve.Filter.Access
import Sieve.Proofs.Text.Integers
import Sieve.Proofs.Uuid

namespace Sieve

/-- The types whose values have texts of their own, from which they are read back. -/
def ColumnType.spelled : ColumnType → Bool
  | integer | bigint | boolean | uuid => true
  | _ => false

namespace Datum

/-! ### Values of a type -/

/-- Whether a value is one of a type; null is of no type. -/
def isOf : ColumnType → Datum → Bool
  | .text, text _ => true
  | .integer, int value => decide (-2147483648 ≤ value.toInt ∧ value.toInt ≤ 2147483647)
  | .bigint, int _ => true
  | .double, float _ => true
  | .boolean, bool _ => true
  | .uuid, uuid _ => true
  | .timestamp, timestamp _ => true
  | .timestampTz, timestampTz _ => true
  | _, _ => false

/-- Whether a value is one that a column of a type can hold: null, or one of the type. -/
def fits (type : ColumnType) (value : Datum) : Bool :=
  value.isNull || value.isOf type

/-- Whether a value is a double precision number that is no number. -/
def isNaN : Datum → Bool
  | float value => value.isNaN
  | _ => false

/-- The type that a value is bound as, if it is not null. -/
def type? : Datum → Option ColumnType
  | null => none
  | bool _ => some .boolean
  | int _ => some .bigint
  | float _ => some .double
  | uuid _ => some .uuid
  | timestamp _ => some .timestamp
  | timestampTz _ => some .timestampTz
  | text _ => some .text

theorem isNull_eq_true_iff {value : Datum} : value.isNull = true ↔ value = null := by
  cases value <;> simp [isNull]

theorem fits_iff {type : ColumnType} {value : Datum} :
    value.fits type = true ↔ value = null ∨ value.isOf type = true := by
  rw [fits, Bool.or_eq_true, isNull_eq_true_iff]

theorem type?_of_isOf {type : ColumnType} {value : Datum} (typed : value.isOf type = true) :
    value.type? = some type.parameterType := by
  cases type <;> cases value <;> first | rfl | exact absurd typed (by simp [isOf])

/-! ### Comparing -/

/-- Whether types compare does not depend on how wide their integers are. -/
theorem comparesWith_parameterType (left right : ColumnType) :
    left.parameterType.comparesWith right.parameterType = left.comparesWith right := by
  cases left <;> cases right <;> rfl

theorem doubleCompare_eq_none_iff (left right : Double) :
    left.compare? right = none ↔ left.isNaN = true ∨ right.isNaN = true := by
  rw [Double.compare?, ← Bool.or_eq_true]
  split <;> simp_all

/-- The number nearest to an integer is a number. -/
theorem isNaN_ofInt (integer : Int) : (Double.ofInt integer).isNaN = false := by
  have small (negative : Bool) {magnitude : Nat} (bound : magnitude ≤ Double.infinityMagnitude) :
      (Double.ofMagnitude negative magnitude).isNaN = false := by
    have limit : Double.infinityMagnitude < 2 ^ 63 := by decide
    rw [Double.isNaN, decide_eq_false_iff_not, Nat.not_lt, Double.magnitude, Double.ofMagnitude]
    simp only [UInt64.toNat_ofNat', Nat.pow_eq]
    split <;> omega
  rw [Double.ofInt, Double.ofRatio]
  split
  · exact small _ (Nat.zero_le _)
  · exact small _ (Nat.min_le_right _ _)

/-- Values of types that compare have an order unless one is null or no number. -/
theorem compare?_eq_none_iff {leftType rightType : ColumnType} {left right : Datum}
    (leftFits : left.fits leftType = true) (rightFits : right.fits rightType = true)
    (comparable : leftType.comparesWith rightType = true) :
    left.compare? right = none ↔
      (left.isNull = true ∨ left.isNaN = true) ∨ right.isNull = true ∨ right.isNaN = true := by
  rcases fits_iff.mp leftFits with rfl | leftTyped
  · simp [compare?, isNull]
  rcases fits_iff.mp rightFits with rfl | rightTyped
  · cases left <;> simp [compare?, isNull]
  have leftBound := type?_of_isOf leftTyped
  have rightBound := type?_of_isOf rightTyped
  rw [← comparesWith_parameterType] at comparable
  cases left <;> cases right <;>
    simp only [type?, Option.some.injEq, reduceCtorEq] at leftBound rightBound <;>
    rw [← leftBound, ← rightBound] at comparable <;>
    first
      | exact absurd comparable (by decide)
      | simp [compare?, isNull, isNaN, doubleCompare_eq_none_iff, isNaN_ofInt]

/-! ### Casting -/

theorem isOf_of_read? {type : ColumnType} {content : List Char} {result : Datum}
    (read : read? type content = some result) : result.isOf type = true := by
  cases type with
  | text =>
    rw [← Option.some.inj read]
    rfl
  | integer =>
    obtain ⟨integer, found, rfl⟩ := Option.map_eq_some_iff.mp read
    exact decide_eq_true (Text.toInt_of_readInt32? found)
  | _ =>
    obtain ⟨_, _, rfl⟩ := Option.map_eq_some_iff.mp read
    rfl

theorem isOf_of_narrow? {integer : Int64} {result : Datum}
    (narrowed : narrow? integer = some result) : result.isOf .integer = true := by
  rw [narrow?] at narrowed
  split at narrowed
  · rename_i bounds
    rw [← Option.some.inj narrowed]
    exact decide_eq_true bounds
  · exact absurd narrowed (by simp)

theorem cast?_null (target : ColumnType) : null.cast? target = some null := by
  cases target <;> rfl

/-- A cast of what is not null gives a value of its target. -/
theorem isOf_of_cast? {target : ColumnType} {value result : Datum} (present : value ≠ null)
    (done : value.cast? target = some result) : result.isOf target = true := by
  cases value with
  | null => exact absurd rfl present
  | text content =>
    cases target with
    | text =>
      rw [← Option.some.inj done]
      rfl
    | _ => exact isOf_of_read? done
  | int content =>
    cases target with
    | integer => exact isOf_of_narrow? done
    | text | bigint | double =>
      rw [← Option.some.inj done]
      rfl
    | _ => exact absurd done (by simp [cast?])
  | _ =>
    cases target <;>
      first
        | (rw [← Option.some.inj done]; rfl)
        | exact absurd done (by simp [cast?])

/-- A cast gives what a column of its target can hold. -/
theorem fits_of_cast? {target : ColumnType} {value result : Datum}
    (done : value.cast? target = some result) : result.fits target = true := by
  by_cases absent : value = null
  · rw [absent, cast?_null] at done
    rw [← Option.some.inj done]
    rfl
  · exact fits_iff.mpr (.inr (isOf_of_cast? absent done))

theorem cast_eq_ok {target : ColumnType} {value result : Datum} :
    value.cast target = .ok result ↔ value.cast? target = some result := by
  rw [cast]
  cases value.cast? target <;> simp

theorem cast_eq_error {target : ColumnType} {value : Datum} {error : CastError} :
    value.cast target = .error error ↔ value.cast? target = none ∧ error = ⟨value, target⟩ := by
  rw [cast]
  cases value.cast? target <;> simp [eq_comm]

/-! ### The texts of values in columns of texts -/

/-- The text of an integer, a truth value or an identifier is cast back to it. -/
theorem cast?_keptIn_text {type : ColumnType} {value : Datum} (typed : value.isOf type = true)
    (spelled : type.spelled = true) : (value.keptIn .text).cast? type = some value := by
  cases type with
  | integer =>
    cases value with
    | int content =>
      show (Text.readInt32? (Text.trim (String.ofList (Text.writeInt content.toInt)).toList)).map
        (fun value => int (Int64.ofInt value)) = some (int content)
      rw [String.toList_ofList, Text.trim_writeInt, Text.readInt32?_writeInt (of_decide_eq_true typed),
        Option.map_some, Int64.ofInt_toInt]
    | _ => exact absurd typed Bool.false_ne_true
  | bigint =>
    cases value with
    | int content =>
      show (Text.readInt64? (Text.trim (String.ofList (Text.writeInt content.toInt)).toList)).map
        int = some (int content)
      rw [String.toList_ofList, Text.trim_writeInt, Text.readInt64?_writeInt, Option.map_some]
    | _ => exact absurd typed Bool.false_ne_true
  | boolean =>
    cases value with
    | bool content => cases content <;> rfl
    | _ => exact absurd typed Bool.false_ne_true
  | uuid =>
    cases value with
    | uuid content =>
      show (Uuid.ofText? (Text.trim (String.ofList content.write).toList)).map uuid =
        some (uuid content)
      rw [String.toList_ofList, Uuid.trim_write, Uuid.ofText?_write, Option.map_some]
    | _ => exact absurd typed Bool.false_ne_true
  | _ => exact absurd spelled Bool.false_ne_true

/-- A value of another type is cast to the text by which a column of texts keeps it. -/
theorem cast?_text {type : ColumnType} {value : Datum} (typed : value.isOf type = true)
    (spelled : type.spelled = true) : value.cast? .text = some (value.keptIn .text) := by
  cases type <;> first
    | exact absurd spelled Bool.false_ne_true
    | (cases value <;> first | rfl | exact absurd typed Bool.false_ne_true)

/-- Two values of a type that are kept by one text are the same value. -/
theorem keptIn_text_injective {type : ColumnType} {left right : Datum}
    (leftTyped : left.isOf type = true) (rightTyped : right.isOf type = true)
    (spelled : type.spelled = true) (same : left.keptIn .text = right.keptIn .text) :
    left = right := by
  have back := cast?_keptIn_text leftTyped spelled
  rw [same, cast?_keptIn_text rightTyped spelled] at back
  exact (Option.some.inj back).symm

end Datum

end Sieve
