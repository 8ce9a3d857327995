/-
This file takes apart what the compiler makes of a predicate. Every access in a
filter is that of a field of the catalog, read as it is stored or brought to the type
in which fields of its kind are compared, and its type is one that can keep the kind.
Each kind of leaf has one lemma that says what it has been compiled from.
-/

import Sieve.Filter.Compile
import Sieve.Proofs.Catalog.Valid
import Sieve.Proofs.Outcome

namespace Sieve

open Outcome

/-! ### Fields -/

namespace Field

variable {field : Field} {operator : Operator} {access : Access}

/-- A field whose column, if it has one, can keep its kind. -/
def Storable (field : Field) : Prop :=
  ∀ column type, field.column? = some (column, type) → field.kind.canStoreIn type = true

@[simp]
theorem access_path (field : Field) : field.access.path = field.path := by
  rw [access]
  split
  · rfl
  · split <;> rfl

@[simp]
theorem access_kind (field : Field) : field.access.kind = field.kind := by
  rw [access]
  split
  · rfl
  · split <;> rfl

theorem access_of_column {column : String} {type : ColumnType}
    (stored : field.column? = some (column, type)) :
    field.access = ⟨field.path, field.kind, .column column, type⟩ := by
  rw [column?] at stored
  rw [access]
  split at stored
  · exact absurd stored (by simp)
  · rename_i storage
    rw [storage]
    obtain ⟨rfl, rfl⟩ := Prod.mk.inj (Option.some.inj stored)
    rfl

theorem access_of_extracted (extracted : field.column? = none) :
    field.access =
      ⟨field.path, field.kind,
        (match field.kind.jsonCast? with
          | some type => .cast field.textSource type
          | none => field.textSource),
        field.kind.defaultColumnType⟩ := by
  rw [column?] at extracted
  rw [access]
  split at extracted
  · rename_i storage
    rw [storage, Kind.defaultColumnType]
    cases field.kind.jsonCast? <;> rfl
  · exact absurd extracted (by simp)

theorem checkOperator_eq_ok :
    field.checkOperator operator = .ok () ↔
      field.kind.supports operator.operatorClass = true := by
  rw [checkOperator]
  split <;> simp_all

theorem checkColumn_eq_ok {condition : ColumnType → Bool} :
    field.checkColumn operator condition = .ok () ↔
      ∀ column type, field.column? = some (column, type) →
        field.kind.canStoreIn type = true ∧ condition type = true := by
  rw [checkColumn, column?]
  cases field.storage with
  | extracted => simp
  | duplicated column type =>
    by_cases fine : (field.kind.canStoreIn type && condition type) = true
    · simp_all
    · simp_all

/-- A field is read to be compared with literals where its kind supports the operator and its
column, if it has one, answers it as the kind does. -/
theorem literalAccess_eq_ok :
    field.literalAccess operator = .ok access ↔
      field.kind.supports operator.operatorClass = true ∧
        (∀ column type, field.column? = some (column, type) →
          field.kind.canStoreIn type = true ∧ answers type field.kind operator = true) ∧
        access = field.access := by
  rw [literalAccess, bind_eq_ok]
  constructor
  · rintro ⟨_, supported, rest⟩
    obtain ⟨_, answered, done⟩ := bind_eq_ok.mp rest
    exact ⟨checkOperator_eq_ok.mp supported, checkColumn_eq_ok.mp answered,
      (Except.ok.inj done).symm⟩
  · rintro ⟨supported, answered, rfl⟩
    refine ⟨(), checkOperator_eq_ok.mpr supported, ?_⟩
    rw [checkColumn_eq_ok.mpr answered]
    rfl

/-- A field is read to be compared with another field where its kind supports the operator. -/
theorem fieldAccess_eq_ok :
    field.fieldAccess operator = .ok access ↔
      field.kind.supports operator.operatorClass = true ∧ field.Storable ∧
        access = field.access.broughtTo field.kind.comparisonType := by
  rw [fieldAccess, bind_eq_ok]
  constructor
  · rintro ⟨_, supported, rest⟩
    obtain ⟨_, stored, done⟩ := bind_eq_ok.mp rest
    exact ⟨checkOperator_eq_ok.mp supported,
      fun column type same => (checkColumn_eq_ok.mp stored column type same).1,
      (Except.ok.inj done).symm⟩
  · rintro ⟨supported, stored, rfl⟩
    refine ⟨(), checkOperator_eq_ok.mpr supported, ?_⟩
    rw [checkColumn_eq_ok.mpr fun column type same => ⟨stored column type same, rfl⟩]
    rfl

end Field

/-! ### Leaves -/

namespace Catalog

variable {catalog : Catalog} {typeName path : String} {operator : Operator} {access : Access}
  {filter : Filter}

theorem literalAccess_eq_ok :
    catalog.literalAccess typeName path operator = .ok access ↔
      ∃ field, catalog.resolve typeName path = .ok field ∧
        field.literalAccess operator = .ok access :=
  bind_eq_ok

theorem fieldAccess_eq_ok :
    catalog.fieldAccess typeName path operator = .ok access ↔
      ∃ field, catalog.resolve typeName path = .ok field ∧
        field.fieldAccess operator = .ok access :=
  bind_eq_ok

/-- A comparison with a literal asks for null or compares with the literal's parameter. -/
theorem compileComparison_eq_ok {comparison : Comparison} {value : Literal} :
    catalog.compileComparison typeName path comparison value = .ok filter ↔
      if value.isNull = true ∧ comparison.operatorClass = .equality then
        ∃ access, catalog.literalAccess typeName path .isNull = .ok access ∧
          filter = .isNull access (comparison == .ne)
      else
        ∃ access, catalog.literalAccess typeName path (.compare comparison) = .ok access ∧
          ∃ parameter, access.bind value = .ok parameter ∧
            filter = .compare access comparison parameter := by
  rw [compileComparison]
  by_cases absent : value.isNull = true ∧ comparison.operatorClass = .equality
  · rw [if_pos absent, if_pos (by simp [absent]), bind_eq_ok]
    simp [eq_comm]
  · rw [if_neg absent, if_neg (by simpa using absent), bind_eq_ok]
    simp only [bind_eq_ok, pure_eq_ok, Except.ok.injEq, @eq_comm _ _ filter]

/-- A comparison of two fields compares them in types that compare. -/
theorem compileFields_eq_ok {comparison : Comparison} {left right : String} :
    catalog.compileFields typeName left comparison right = .ok filter ↔
      ∃ leftAccess, catalog.fieldAccess typeName left (.compare comparison) = .ok leftAccess ∧
        ∃ rightAccess,
          catalog.fieldAccess typeName right (.compare comparison) = .ok rightAccess ∧
          leftAccess.type.comparesWith rightAccess.type = true ∧
          filter = .compareFields leftAccess comparison rightAccess := by
  rw [compileFields, bind_eq_ok]
  refine exists_congr fun leftAccess => and_congr_right fun _ => ?_
  rw [bind_eq_ok]
  refine exists_congr fun rightAccess => and_congr_right fun _ => ?_
  split
  · rename_i comparable
    simp [comparable, @eq_comm _ _ filter]
  · rename_i incomparable
    simp [incomparable]

/-- A field among literals is compared with the parameters of those that are not null. -/
theorem compileMember_eq_ok {values : List Literal} {negated : Bool} :
    catalog.compileMember typeName path values negated = .ok filter ↔
      ∃ access, catalog.literalAccess typeName path .member = .ok access ∧
        ∃ parameters,
          (values.filter fun value => !value.isNull).mapM access.bind = .ok parameters ∧
          filter = memberFilter access parameters (values.any Literal.isNull) negated := by
  rw [compileMember, bind_eq_ok]
  simp only [bind_eq_ok, pure_eq_ok, Except.ok.injEq, @eq_comm _ _ filter]

/-- A field between two literals is compared with both their parameters. -/
theorem compileBetween_eq_ok {low high : Literal} :
    catalog.compileBetween typeName path low high = .ok filter ↔
      ∃ access, catalog.literalAccess typeName path .between = .ok access ∧
        ∃ lowParameter, access.bind low = .ok lowParameter ∧
          ∃ highParameter, access.bind high = .ok highParameter ∧
            filter = .between access lowParameter highParameter := by
  rw [compileBetween, bind_eq_ok]
  simp only [bind_eq_ok, pure_eq_ok, Except.ok.injEq, @eq_comm _ _ filter]

/-- A field that holds a text is matched with a pattern that is a text. -/
theorem compileText_eq_ok {textMatch : TextMatch} {value : String} {ignoresCase : Bool} :
    catalog.compileText typeName path textMatch value ignoresCase = .ok filter ↔
      ∃ access, catalog.literalAccess typeName path (.text textMatch) = .ok access ∧
        filter = .like access
          ⟨.text (String.ofList (Pattern.lookingFor textMatch value.toList)), .text⟩
          ignoresCase := by
  rw [compileText, bind_eq_ok]
  simp only [pure_eq_ok, Except.ok.injEq, @eq_comm _ _ filter]

end Catalog

end Sieve
