/-
This file says what can be wrong with a predicate whatever columns its fields have. A
leaf is checked against the kinds of its fields: each path must be declared, the kind
must support the operator, every literal must be of the kind, and two fields must
compare. A column adds one thing to this, for a field that a catalog accepts: a column of
texts cannot order integers. What a literal is brought to never depends on the column.
-/

import Sieve.Proofs.Filter.Typed
import Sieve.Proofs.Predicate.Leaves

namespace Sieve

open Outcome

/-! ### Checking against kinds -/

/-- Checks that a literal is one of a kind. -/
def Kind.checkLiteral (kind : Kind) (path : String) (literal : Literal) :
    Except Rejection Unit :=
  if (literal.value? kind).isSome then .ok ()
  else .error (.invalidOperand path kind literal.typeName)

/-- What a comparison with a literal asks of a field: being equal to null is being null. -/
def Literal.operator (comparison : Comparison) (literal : Literal) : Operator :=
  if literal.isNull = true ∧ comparison.operatorClass = .equality then .isNull
  else .compare comparison

namespace Predicate

section

variable (kindAt : String → Except Rejection Kind)

/-- The kind of the field at a path, if it supports an operator. -/
def supportingKind (path : String) (operator : Operator) : Except Rejection Kind := do
  let kind ← kindAt path
  if kind.supports operator.operatorClass then pure kind
  else .error (.unsupported (.undefined path operator kind))

/-- Checks that the field at a path supports an operator and that literals are of its kind. -/
def checkField (path : String) (operator : Operator) (literals : List Literal) :
    Except Rejection Unit := do
  let kind ← supportingKind kindAt path operator
  literals.forM (kind.checkLiteral path)

/-- Checks that the fields at two paths support a comparison and compare with each other. -/
def checkFields (left : String) (comparison : Comparison) (right : String) :
    Except Rejection Unit := do
  let leftKind ← supportingKind kindAt left (.compare comparison)
  let rightKind ← supportingKind kindAt right (.compare comparison)
  if leftKind.comparisonType.comparesWith rightKind.comparisonType then .ok ()
  else .error (.unsupported (.incomparable left comparison right leftKind rightKind))

/-- Checks a leaf against the kinds at paths. -/
def checkLeaf : Predicate → Except Rejection Unit
  | compare (.field path) comparison (.literal value) =>
    checkField kindAt path (value.operator comparison) [value]
  | compare (.literal value) comparison (.field path) =>
    checkField kindAt path (value.operator comparison.flip) [value]
  | compare (.field left) comparison (.field right) => checkFields kindAt left comparison right
  | compare (.literal _) comparison (.literal _) => .error (.unsupported (.fieldless comparison))
  | member path values _ => checkField kindAt path .member values
  | between path low high => checkField kindAt path .between [low, high]
  | isNull path _ => checkField kindAt path .isNull []
  | text path textMatch _ _ => checkField kindAt path (.text textMatch) []
  | _ => .ok ()

/-- Checks the leaves of a predicate against the kinds at paths, from left to right. -/
def check (predicate : Predicate) : Except Rejection Unit :=
  predicate.leaves.forM (checkLeaf kindAt)

end

/-- Whether a leaf asks for an order between the field at a path and literals. -/
def AsksOrder (path : String) : Predicate → Prop
  | compare (.field other) comparison (.literal _) =>
    other = path ∧ comparison.operatorClass = .ordering
  | compare (.literal _) comparison (.field other) =>
    other = path ∧ comparison.operatorClass = .ordering
  | between other _ _ => other = path
  | _ => False

end Predicate

/-! ### Columns that cannot answer -/

/-- An error that says that a column cannot do what it is asked to. -/
def Rejection.IsStorageMismatch (rejection : Rejection) : Prop :=
  ∃ path column type kind use, rejection = .storageMismatch path column type kind use

namespace Predicate

variable {kindAt : String → Except Rejection Kind}

theorem supportingKind_avoids_mismatch (plain : ∀ path, Avoids (·.IsStorageMismatch) (kindAt path))
    (path : String) (operator : Operator) :
    Avoids (·.IsStorageMismatch) (supportingKind kindAt path operator) := by
  refine (plain path).bind fun kind => ?_
  split
  · exact avoids_ok kind
  · exact avoids_error nofun

theorem checkField_avoids_mismatch (plain : ∀ path, Avoids (·.IsStorageMismatch) (kindAt path))
    (path : String) (operator : Operator) (literals : List Literal) :
    Avoids (·.IsStorageMismatch) (checkField kindAt path operator literals) := by
  refine (supportingKind_avoids_mismatch plain path operator).bind fun kind => ?_
  refine Avoids.forM (fun literal => ?_) literals
  rw [Kind.checkLiteral]
  split
  · exact avoids_ok ()
  · exact avoids_error nofun

theorem checkFields_avoids_mismatch (plain : ∀ path, Avoids (·.IsStorageMismatch) (kindAt path))
    (left : String) (comparison : Comparison) (right : String) :
    Avoids (·.IsStorageMismatch) (checkFields kindAt left comparison right) := by
  refine (supportingKind_avoids_mismatch plain left _).bind fun leftKind => ?_
  refine (supportingKind_avoids_mismatch plain right _).bind fun rightKind => ?_
  split
  · exact avoids_ok ()
  · exact avoids_error nofun

/-- The check of a leaf against kinds finds no mismatch of a column. -/
theorem checkLeaf_avoids_mismatch (plain : ∀ path, Avoids (·.IsStorageMismatch) (kindAt path))
    (leaf : Predicate) : Avoids (·.IsStorageMismatch) (leaf.checkLeaf kindAt) := by
  unfold checkLeaf
  split
  case h_3 => exact checkFields_avoids_mismatch plain _ _ _
  case h_4 => exact avoids_error nofun
  case h_9 => exact avoids_ok ()
  all_goals exact checkField_avoids_mismatch plain _ _ _

end Predicate

/-- Whether a field of integers is kept in a column of texts, which orders them as texts. -/
def Field.SpellsIntegers (field : Field) : Prop :=
  field.kind = .integer ∧ ∃ column, field.storage = .duplicated column .text

/-- The error for an order that is asked of the integers in a column of texts. -/
def Rejection.ofOrder (path column : String) (operator : Operator) : Rejection :=
  .storageMismatch path column .text .integer (.answering operator)

namespace Field

variable {field : Field} {operator : Operator}

theorem checkOperator_eq (field : Field) (operator : Operator) :
    field.checkOperator operator =
      if field.kind.supports operator.operatorClass then .ok ()
      else .error (.unsupported (.undefined field.path operator field.kind)) := rfl

/-- The column of a field that can be stored answers every operator that its kind supports, except
that a column of texts does not order integers. -/
theorem answers_iff (storable : field.Storable) {column : String} {type : ColumnType}
    (stored : field.storage = .duplicated column type)
    (supported : field.kind.supports operator.operatorClass = true) :
    (field.kind.canStoreIn type && answers type field.kind operator) = true ↔
      ¬(operator.operatorClass = .ordering ∧ field.SpellsIntegers) := by
  have kept : field.kind.canStoreIn type = true :=
    storable column type (by rw [column?, stored])
  have spells : field.SpellsIntegers ↔ field.kind = .integer ∧ type = .text := by
    simp [SpellsIntegers, stored]
  rw [spells, answers]
  generalize field.kind = kind at kept supported ⊢
  generalize operator.operatorClass = asked at supported ⊢
  cases kind <;> cases type <;> first
    | exact absurd kept Bool.false_ne_true
    | (cases asked <;> first
        | decide
        | exact absurd supported Bool.false_ne_true)

/-- Where a field can be stored, it is read for literals if its kind supports the operator and it
is not asked for an order that its column does not have. -/
theorem literalAccess_cases (storable : field.Storable) (operator : Operator) :
    (operator.operatorClass = .ordering ∧ field.kind = .integer ∧
        ∃ column, field.storage = .duplicated column .text ∧
          field.literalAccess operator = .error (.ofOrder field.path column operator)) ∨
      ¬(operator.operatorClass = .ordering ∧ field.SpellsIntegers) ∧
        field.literalAccess operator =
          if field.kind.supports operator.operatorClass then .ok field.access
          else .error (.unsupported (.undefined field.path operator field.kind)) := by
  rw [literalAccess, checkOperator_eq]
  by_cases supported : field.kind.supports operator.operatorClass = true
  · rw [if_pos supported, if_pos supported, ok_bind, checkColumn]
    cases stored : field.storage with
    | extracted =>
      refine .inr ⟨?_, rfl⟩
      rintro ⟨_, _, column, other⟩
      exact absurd (stored.symm.trans other) (by simp)
    | duplicated column type =>
      have answered := answers_iff storable stored supported
      by_cases misfit : operator.operatorClass = .ordering ∧ field.SpellsIntegers
      · obtain ⟨ordering, integers, other, same⟩ := misfit
        obtain ⟨rfl, rfl⟩ := Storage.duplicated.inj (stored.symm.trans same)
        have refused : ¬(field.kind.canStoreIn .text && answers .text field.kind operator) = true :=
          fun fine => answered.mp fine ⟨ordering, integers, column, same⟩
        refine .inl ⟨ordering, integers, column, rfl, ?_⟩
        simp only [if_neg refused, error_bind]
        rw [integers]
        rfl
      · refine .inr ⟨misfit, ?_⟩
        simp only [answered.mpr misfit, if_true]
        rfl
  · rw [if_neg supported, if_neg supported, error_bind]
    refine .inr ⟨?_, rfl⟩
    rintro ⟨ordering, integers, _⟩
    rw [ordering, integers] at supported
    exact supported rfl

/-- Where a field can be stored, it is read for another field if its kind supports the operator. -/
theorem fieldAccess_eq (storable : field.Storable) (operator : Operator) :
    field.fieldAccess operator =
      if field.kind.supports operator.operatorClass then
        .ok (field.access.broughtTo field.kind.comparisonType)
      else .error (.unsupported (.undefined field.path operator field.kind)) := by
  have kept : field.checkColumn operator (fun _ => true) = .ok () :=
    checkColumn_eq_ok.mpr fun column type stored => ⟨storable column type stored, rfl⟩
  rw [fieldAccess, checkOperator_eq, kept]
  split <;> rfl

end Field

/-- A literal is bound where it is of the kind of the field, whatever type the field is read as. -/
theorem Access.verdict_bind {access : Access} (literal : Literal)
    (storable : access.kind.canStoreIn access.type = true) :
    verdict (access.bind literal) = access.kind.checkLiteral access.path literal := by
  rw [bind, Kind.checkLiteral, Literal.value?]
  by_cases absent : literal.isNull = true
  · rw [if_pos absent, if_pos absent]
    rfl
  · rw [if_neg absent, if_neg absent]
    have kept := literal.map_keptIn_datum? storable
    cases means : literal.datum? access.kind access.type <;>
      cases read : literal.datum? access.kind access.kind.defaultColumnType <;>
      rw [means, read] at kept
    · rfl
    · exact absurd kept (by simp)
    · exact absurd kept (by simp)
    · rfl

/-- Types that compare with each other compare with the same types. -/
theorem ColumnType.comparesWith_congr {type other : ColumnType}
    (same : type.comparesWith other = true) (third : ColumnType) :
    type.comparesWith third = other.comparesWith third := by
  revert same
  cases type <;> cases other <;> first
    | exact fun _ => rfl
    | exact fun apart => absurd apart (by decide)
    | (cases third <;> exact fun _ => rfl)

/-- What a field is brought to compares with the type in which its kind is compared. -/
theorem Access.comparesWith_broughtTo (access : Access) (type : ColumnType) :
    (access.broughtTo type).type.comparesWith type = true := by
  rw [broughtTo]
  split
  · assumption
  · split <;> simp [ColumnType.comparesWith]

theorem Access.kind_broughtTo (access : Access) (type : ColumnType) :
    (access.broughtTo type).kind = access.kind := by
  rw [broughtTo]
  split
  · rfl
  · split <;> rfl

end Sieve
