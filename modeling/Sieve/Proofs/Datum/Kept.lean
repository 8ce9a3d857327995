/-
This file compares values as they are kept in columns. A kind reads its values as one
type, but a column may keep them as another: instants as wall clocks, or numbers,
truth values and identifiers as texts. A literal is bound as the value it means is
kept, and values compare as they do when they are kept, except that texts do not
order what they stand for.
-/

import Sieve.Filter.Evaluate
import Sieve.Proofs.Datum.Typed

namespace Sieve

open Calendar

namespace Datum

/-- A value that a kind reads, as a column of a type keeps it: a wall clock is kept as an instant
where the column holds instants, and other values by their texts where it holds texts. -/
def keptAs (type : ColumnType) (value : Datum) : Datum :=
  match type, value with
  | .timestampTz, .timestamp clock => .timestampTz ⟨clock⟩
  | type, value => value.keptIn type

/-! ### Values as they are kept -/

@[simp]
theorem keptAs_null (type : ColumnType) : null.keptAs type = null := by
  cases type <;> rfl

theorem isNull_keptAs (type : ColumnType) (value : Datum) :
    (value.keptAs type).isNull = value.isNull := by
  cases type with
  | text | timestampTz => cases value <;> rfl
  | _ => rfl

end Datum

namespace Kind

/-- The kinds whose values a column of texts keeps by texts of their own. -/
def spelled : Kind → Bool
  | integer | boolean | uuid => true
  | _ => false

theorem spelled_defaultColumnType {kind : Kind} (texts : kind.spelled = true) :
    kind.defaultColumnType.spelled = true := by
  cases kind <;> first | exact absurd texts (by decide) | rfl

/-- A column can keep a kind as the type that the kind reads, by texts that stand for its values,
as fewer bits, or as instants in place of wall clocks. -/
theorem canStoreIn_cases {kind : Kind} {type : ColumnType}
    (storable : kind.canStoreIn type = true) :
    type = kind.defaultColumnType ∨ type = .text ∧ kind.spelled = true ∨
      type = .integer ∧ kind = .integer ∨ type = .timestampTz ∧ kind = .utc := by
  cases kind <;> cases type <;> first
    | exact .inl rfl
    | exact .inr (.inl ⟨rfl, rfl⟩)
    | exact .inr (.inr (.inl ⟨rfl, rfl⟩))
    | exact .inr (.inr (.inr ⟨rfl, rfl⟩))
    | exact absurd storable Bool.false_ne_true

theorem ordersLike_defaultColumnType (kind : Kind) :
    kind.defaultColumnType.ordersLike kind = true := by
  cases kind <;> rfl

theorem canStoreIn_defaultColumnType (kind : Kind) :
    kind.canStoreIn kind.defaultColumnType = true := by
  cases kind <;> rfl

end Kind

namespace Datum

variable {kind : Kind} {type : ColumnType} {value left right : Datum}

/-- What is kept of a value of a kind is of the type that parameters for the column have. -/
theorem fits_keptAs (storable : kind.canStoreIn type = true)
    (valueFits : value.fits kind.defaultColumnType = true) :
    (value.keptAs type).fits type.parameterType = true := by
  rcases fits_iff.mp valueFits with rfl | typed
  · rw [keptAs_null]
    rfl
  · cases kind <;> cases type <;> first
      | exact absurd storable (by decide)
      | (cases value <;> first | rfl | exact absurd typed Bool.false_ne_true)

/-- A value of a kind is kept unchanged by the type that the kind reads. -/
theorem keptAs_defaultColumnType (valueFits : value.fits kind.defaultColumnType = true) :
    value.keptAs kind.defaultColumnType = value := by
  rcases fits_iff.mp valueFits with rfl | typed
  · exact keptAs_null _
  · cases kind <;> cases value <;> first | rfl | exact absurd typed Bool.false_ne_true

/-- The text that is kept of a value of a kind is cast back to the value. -/
theorem cast_keptIn_text (valueFits : value.fits kind.defaultColumnType = true)
    (spelled : kind.spelled = true) :
    (value.keptIn .text).cast kind.defaultColumnType = .ok value := by
  rw [cast_eq_ok]
  rcases fits_iff.mp valueFits with rfl | typed
  · exact cast?_null _
  · exact cast?_keptIn_text typed (Kind.spelled_defaultColumnType spelled)

/-! ### Comparing what is kept -/

theorem compareOfLessAndEq_eq_eq_iff (left right : String) :
    compareOfLessAndEq left right = .eq ↔ left = right := by
  rw [compareOfLessAndEq]
  constructor
  · intro equal
    split at equal
    · exact absurd equal (by decide)
    · split at equal
      · assumption
      · exact absurd equal (by decide)
  · rintro rfl
    simp

theorem compareBool_eq_eq_iff (left right : Bool) :
    compareBool left right = .eq ↔ left = right := by
  cases left <;> cases right <;> decide

/-- Integers, truth values, identifiers and texts have an order in which only equal ones are
equal. -/
theorem compare?_of_isOf (exact : type.spelled = true ∨ type = .text)
    (leftTyped : left.isOf type = true) (rightTyped : right.isOf type = true) :
    ∃ order, left.compare? right = some order ∧ (order = .eq ↔ left = right) := by
  cases type <;> first | exact absurd exact (by decide) | skip
  all_goals
    cases left <;> first | exact absurd leftTyped Bool.false_ne_true | skip
  all_goals
    cases right <;> first | exact absurd rightTyped Bool.false_ne_true | refine ⟨_, rfl, ?_⟩
  case text => rw [compareOfLessAndEq_eq_eq_iff, text.injEq]
  case integer | bigint => rw [Std.compare_eq_iff_eq, Int64.toInt_inj, int.injEq]
  case boolean => rw [compareBool_eq_eq_iff, bool.injEq]
  case uuid leftBits rightBits =>
    rw [Uuid.compare, Std.compare_eq_iff_eq, uuid.injEq, BitVec.toNat_inj]
    exact ⟨fun same => congrArg Uuid.mk same, congrArg Uuid.bits⟩

end Datum

theorem Comparison.holds_congr {comparison : Comparison} {order other : Ordering}
    (equality : comparison.operatorClass = .equality) (same : order = .eq ↔ other = .eq) :
    comparison.holds order = comparison.holds other := by
  cases comparison <;> first
    | exact absurd equality (by decide)
    | (cases order <;> cases other <;> first | rfl | exact absurd same (by decide))

namespace Datum

variable {kind : Kind} {type : ColumnType} {value left right : Datum}

/-- Whatever a column of texts keeps of a kind is a text. -/
theorem isOf_keptAs_text (spelled : kind.spelled = true)
    (typed : value.isOf kind.defaultColumnType = true) :
    (value.keptAs .text).isOf .text = true := by
  cases kind <;> first
    | exact absurd spelled (by decide)
    | (cases value <;> first | rfl | exact absurd typed Bool.false_ne_true)

/-- Values of a kind compare as what a column keeps of them does, where the column orders like
the kind. -/
theorem compare?_keptAs (storable : kind.canStoreIn type = true)
    (ordered : type.ordersLike kind = true) (leftFits : left.fits kind.defaultColumnType = true)
    (rightFits : right.fits kind.defaultColumnType = true) :
    (left.keptAs type).compare? (right.keptAs type) = left.compare? right := by
  by_cases same : left.keptAs type = left ∧ right.keptAs type = right
  · rw [same.1, same.2]
  · cases kind <;> cases type <;> first
      | exact absurd storable (by decide)
      | exact absurd ordered (by decide)
      | exact absurd ⟨rfl, rfl⟩ same
      | (cases left <;> first
          | exact absurd leftFits Bool.false_ne_true
          | (cases right <;> first | exact absurd rightFits Bool.false_ne_true | rfl))

/-- A comparison has the same truth of values of a kind as of what a column keeps of them, where
the column answers it as the kind does. -/
theorem truth_keptAs {comparison : Comparison} (storable : kind.canStoreIn type = true)
    (answered : comparison.operatorClass = .equality ∨ type.ordersLike kind = true)
    (leftFits : left.fits kind.defaultColumnType = true)
    (rightFits : right.fits kind.defaultColumnType = true) :
    comparison.truth (left.keptAs type) (right.keptAs type) = comparison.truth left right := by
  by_cases ordered : type.ordersLike kind = true
  · rw [Comparison.truth, Comparison.truth,
      compare?_keptAs storable ordered leftFits rightFits]
  have equality := answered.resolve_right ordered
  obtain ⟨rfl, spelled⟩ : type = .text ∧ kind.spelled = true := by
    rcases Kind.canStoreIn_cases storable with rfl | texts | ⟨rfl, _⟩ | ⟨rfl, _⟩
    · exact absurd (kind.ordersLike_defaultColumnType) ordered
    · exact texts
    · exact absurd rfl ordered
    · exact absurd rfl ordered
  rcases fits_iff.mp leftFits with rfl | leftTyped
  · rw [keptAs_null]
    rfl
  rcases fits_iff.mp rightFits with rfl | rightTyped
  · rw [keptAs_null]
    cases left <;> rfl
  have read := Kind.spelled_defaultColumnType spelled
  obtain ⟨order, compared, equal⟩ := compare?_of_isOf (.inl read) leftTyped rightTyped
  obtain ⟨keptOrder, keptCompared, keptEqual⟩ := compare?_of_isOf (.inr rfl)
    (isOf_keptAs_text spelled leftTyped) (isOf_keptAs_text spelled rightTyped)
  rw [Comparison.truth, Comparison.truth, compared, keptCompared, Option.map_some, Option.map_some]
  refine congrArg some (Comparison.holds_congr equality ?_)
  rw [keptEqual, equal]
  exact ⟨keptIn_text_injective leftTyped rightTyped read, congrArg (keptAs .text)⟩

end Datum

/-! ### Literals -/

namespace Literal

variable {kind : Kind} {type : ColumnType} {literal : Literal}

/-- The value that a literal means for a kind is one that the kind reads. -/
theorem isOf_of_datum? {value : Datum}
    (means : literal.datum? kind kind.defaultColumnType = some value) :
    value.isOf kind.defaultColumnType = true := by
  cases literal <;> cases kind <;> first
    | (rw [← Option.some.inj means]; rfl)
    | (obtain ⟨_, _, rfl⟩ := Option.map_eq_some_iff.mp means; rfl)
    | exact absurd means nofun

/-- For a column a literal means what the column keeps of the value that it means for the
kind. -/
theorem map_keptIn_datum? (literal : Literal) (storable : kind.canStoreIn type = true) :
    (literal.datum? kind type).map (Datum.keptIn type) =
      (literal.datum? kind kind.defaultColumnType).map (Datum.keptAs type) := by
  cases kind <;> cases type <;> first
    | exact absurd storable (by decide)
    | (cases literal <;> rfl)

/-- The value that a literal means for a kind, wherever a field of the kind is stored. -/
def value? (kind : Kind) (literal : Literal) : Option Datum :=
  if literal.isNull then some .null else literal.datum? kind kind.defaultColumnType

theorem fits_of_value? {value : Datum} (means : literal.value? kind = some value) :
    value.fits kind.defaultColumnType = true := by
  rw [value?] at means
  split at means
  · rw [← Option.some.inj means]
    rfl
  · exact Datum.fits_iff.mpr (.inr (isOf_of_datum? means))

end Literal

/-- A literal is bound as the column keeps the value that it means. -/
theorem Access.bind_eq_ok {access : Access} {literal : Literal} {parameter : Parameter}
    (storable : access.kind.canStoreIn access.type = true) :
    access.bind literal = .ok parameter ↔
      ∃ value, literal.value? access.kind = some value ∧
        parameter = ⟨value.keptAs access.type, access.type.parameterType⟩ := by
  rw [bind, Literal.value?]
  by_cases absent : literal.isNull = true
  · rw [if_pos absent, if_pos absent]
    simp [eq_comm]
  · rw [if_neg absent, if_neg absent]
    have kept := literal.map_keptIn_datum? storable
    cases means : literal.datum? access.kind access.type <;>
      cases read : literal.datum? access.kind access.kind.defaultColumnType <;>
      rw [means, read] at kept
    · simp
    · exact absurd kept (by simp)
    · exact absurd kept (by simp)
    · simp [← Option.some.inj kept, eq_comm]

end Sieve
