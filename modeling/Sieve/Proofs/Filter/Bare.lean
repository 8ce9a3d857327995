/-
This file takes from filters what does not matter to their truth: which field an
access is for, the types of accesses and parameters, the sign of a zero, and whether
a single part stands in a conjunction or a disjunction. What is left is evaluated
just as the filter is.
-/

import Mathlib
import Sieve.Filter.Evaluate
import Sieve.Proofs.Outcome

namespace Sieve

open Outcome

/-! ### Equal values -/

namespace Double

/-- A number; of the two zeros the one without a sign. -/
def withOneZero (number : Double) : Double :=
  if number.isZero then zero false else number

variable {left right : Double}

theorem place_withOneZero (number : Double) : number.withOneZero.place = number.place := by
  rw [withOneZero]
  split
  · rename_i isZero
    have none : number.magnitude = 0 := beq_iff_eq.mp isZero
    have middle : number.place = 0 := by
      rw [place, none]
      split <;> rfl
    rw [middle]
    rfl
  · rfl

theorem isNaN_withOneZero (number : Double) : number.withOneZero.isNaN = number.isNaN := by
  rw [withOneZero]
  split
  · rename_i isZero
    have none : number.magnitude = 0 := beq_iff_eq.mp isZero
    rw [isNaN, isNaN, none]
    rfl
  · rfl

/-- The sign of a zero is not seen by a comparison. -/
theorem compare?_withOneZero (left right : Double) :
    left.compare? right.withOneZero = left.compare? right := by
  rw [compare?, compare?, place_withOneZero, isNaN_withOneZero]

/-- A number is known by its place unless it is zero. -/
theorem eq_of_place_eq (same : left.place = right.place) (other : left.magnitude ≠ 0) :
    left = right := by
  have leftBits := left.bits.toNat_lt
  have rightBits := right.bits.toNat_lt
  have bits : left.bits.toNat = right.bits.toNat := by
    simp only [place, negative, magnitude, decide_eq_true_eq, Nat.pow_eq] at same other
    split at same <;> split at same <;> omega
  exact congrArg Double.mk (UInt64.toNat_inj.mp bits)

theorem withOneZero_eq_of_compare? (equal : left.compare? right = some .eq) :
    left.withOneZero = right.withOneZero := by
  rw [compare?] at equal
  split at equal
  · exact absurd equal (by simp)
  · have same : left.place = right.place := compare_eq_iff_eq.mp (Option.some.inj equal)
    by_cases none : left.magnitude = 0
    · have alsoNone : right.magnitude = 0 := by
        simp only [place, none] at same
        split at same <;> split at same <;> omega
      rw [withOneZero, withOneZero, isZero, isZero, none, alsoNone]
      rfl
    · rw [eq_of_place_eq same none]

end Double

namespace Datum

/-- A value; of the two zeros the one without a sign. -/
def withOneZero : Datum → Datum
  | float number => float number.withOneZero
  | other => other

/-- Whether two values are equal: they are one value, or numbers in one place. -/
def Equal (left right : Datum) : Prop :=
  left = right ∨
    ∃ leftNumber rightNumber, left = float leftNumber ∧ right = float rightNumber ∧
      leftNumber.compare? rightNumber = some .eq

theorem Equal.withOneZero_eq {left right : Datum} (equal : left.Equal right) :
    left.withOneZero = right.withOneZero := by
  rcases equal with same | ⟨leftNumber, rightNumber, rfl, rfl, same⟩
  · rw [same]
  · exact congrArg float (Double.withOneZero_eq_of_compare? same)

theorem compare?_withOneZero (left right : Datum) :
    left.compare? right.withOneZero = left.compare? right := by
  cases right with
  | float number =>
    cases left with
    | int value => exact Double.compare?_withOneZero _ _
    | float value => exact Double.compare?_withOneZero _ _
    | _ => rfl
  | _ => rfl

theorem like_withOneZero (value pattern : Datum) (ignoresCase : Bool) :
    value.like pattern.withOneZero ignoresCase = value.like pattern ignoresCase := by
  cases value <;> cases pattern <;> rfl

end Datum

theorem Comparison.truth_withOneZero (comparison : Comparison) (left right : Datum) :
    comparison.truth left right.withOneZero = comparison.truth left right := by
  rw [truth, truth, Datum.compare?_withOneZero]

/-! ### Bare filters -/

/-- An access of which only the source is known. -/
def Access.bare (access : Access) : Access :=
  ⟨"", .string, access.source, .text⟩

/-- A parameter of which only the value is known. -/
def Parameter.bare (parameter : Parameter) : Parameter :=
  ⟨parameter.value.withOneZero, .text⟩

namespace Filter

mutual

/-- A filter without what does not matter to its truth. -/
def bare : Filter → Filter
  | all parts => all (bareAll parts)
  | any [part] => all [bare part]
  | any parts => any (bareAll parts)
  | not part => not (bare part)
  | compare field comparison parameter => compare field.bare comparison parameter.bare
  | compareFields left comparison right => compareFields left.bare comparison right.bare
  | member field parameters negated => member field.bare (parameters.map Parameter.bare) negated
  | between field low high => between field.bare low.bare high.bare
  | isNull field negated => isNull field.bare negated
  | like field pattern ignoresCase => like field.bare pattern.bare ignoresCase

/-- Filters without what does not matter to their truths. -/
def bareAll : List Filter → List Filter
  | [] => []
  | part :: rest => bare part :: bareAll rest

end

theorem bare_any_cons_cons (first second : Filter) (rest : List Filter) :
    (any (first :: second :: rest)).bare = any (bareAll (first :: second :: rest)) := by
  rw [bare]
  exact fun part same => absurd same (by simp)

variable (row : Row)

theorem memberTruth_bare (value : Datum) (parameters : List Parameter) :
    memberTruth value (parameters.map Parameter.bare) = memberTruth value parameters := by
  rw [memberTruth, memberTruth, List.map_map]
  exact congrArg Truth.disjunction
    (List.map_congr_left fun parameter _ => Comparison.truth_withOneZero _ _ _)

theorem disjunction_singleton (truth : Truth) :
    Truth.disjunction [truth] = Truth.conjunction [truth] := by
  rcases truth with _ | _ | _ <;> rfl

mutual

/-- What is taken away does not matter. -/
theorem evaluate_bare (filter : Filter) : filter.bare.evaluate row = filter.evaluate row := by
  cases filter with
  | all parts => rw [bare, evaluate, evaluate, evaluateAll_bareAll parts]
  | any parts =>
    rcases parts with _ | ⟨first, _ | ⟨second, rest⟩⟩
    · rfl
    · rw [bare, evaluate, evaluate]
      simp only [evaluateAll, evaluate_bare first]
      cases first.evaluate row with
      | error error => rfl
      | ok truth => exact congrArg Except.ok (disjunction_singleton truth).symm
    · rw [bare_any_cons_cons, evaluate, evaluate, evaluateAll_bareAll (first :: second :: rest)]
  | not part => rw [bare, evaluate, evaluate, evaluate_bare part]
  | compare field comparison parameter =>
    rw [bare, evaluate, evaluate]
    simp only [Access.bare, Parameter.bare, Comparison.truth_withOneZero]
  | compareFields left comparison right => rfl
  | member field parameters negated =>
    rw [bare, evaluate, evaluate]
    simp only [Access.bare, memberTruth_bare]
  | between field low high =>
    rw [bare, evaluate, evaluate]
    simp only [Access.bare, Parameter.bare, betweenTruth, Comparison.truth_withOneZero]
  | isNull field negated => rfl
  | like field pattern ignoresCase =>
    rw [bare, evaluate, evaluate]
    simp only [Access.bare, Parameter.bare, Datum.like_withOneZero]

theorem evaluateAll_bareAll (parts : List Filter) :
    evaluateAll row (bareAll parts) = evaluateAll row parts := by
  cases parts with
  | nil => rfl
  | cons part rest =>
    rw [bareAll, evaluateAll, evaluateAll, evaluate_bare part, evaluateAll_bareAll rest]

end

/-! ### What is left -/

mutual

/-- The parameters are left, with their values. -/
theorem parameters_bare (filter : Filter) :
    filter.bare.parameters = filter.parameters.map Parameter.bare := by
  cases filter with
  | all parts => rw [bare, parameters, parameters, parametersOfAll_bareAll parts]
  | any parts =>
    rcases parts with _ | ⟨first, _ | ⟨second, rest⟩⟩
    · rfl
    · rw [bare, parameters, parameters]
      simp only [parametersOfAll, parameters_bare first, List.append_nil]
    · rw [bare_any_cons_cons, parameters, parameters,
        parametersOfAll_bareAll (first :: second :: rest)]
  | not part => rw [bare, parameters, parameters, parameters_bare part]
  | _ => rfl

theorem parametersOfAll_bareAll (parts : List Filter) :
    parametersOfAll (bareAll parts) = (parametersOfAll parts).map Parameter.bare := by
  cases parts with
  | nil => rfl
  | cons part rest =>
    rw [bareAll, parametersOfAll, parametersOfAll, parameters_bare part,
      parametersOfAll_bareAll rest, List.map_append]

end

end Filter

end Sieve
