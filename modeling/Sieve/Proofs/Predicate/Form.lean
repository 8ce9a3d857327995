/-
This file proves that literals never reach a text. Two predicates have one form if
they differ at most in literals that are not null. What is compiled from them, where
both are compiled, differs in parameters alone: how a field is read and what is made of
a leaf depend on the catalog, on the operator and on which literals are null, but on
nothing else about literals. As parameters are not written, both predicates are planned
as the same texts, and these have the same fingerprints.
-/

import Sieve.Proofs.Predicate.Normal
import Sieve.Proofs.Sql.Outline
import Sieve.Proofs.Sql.Placeholders

namespace Sieve

open Outcome

/-! ### Predicates of one form -/

/-- Two literals of which both are null or neither is. -/
def Literal.SameForm (left right : Literal) : Prop :=
  left.isNull = right.isNull

/-- Two operands that are one field, or literals of one form. -/
inductive Operand.SameForm : Operand → Operand → Prop
  /-- A field. -/
  | field (path : String) : Operand.SameForm (.field path) (.field path)
  /-- Literals. -/
  | literal {value other : Literal} (same : value.SameForm other) :
    Operand.SameForm (.literal value) (.literal other)

namespace Predicate

mutual

/-- Two predicates that differ at most in literals that are not null, and in the texts that are
looked for. -/
inductive SameForm : Predicate → Predicate → Prop
  /-- Conjunctions. -/
  | all {parts others : List Predicate} (below : AllSameForm parts others) :
    SameForm (.all parts) (.all others)
  /-- Disjunctions. -/
  | any {parts others : List Predicate} (below : AllSameForm parts others) :
    SameForm (.any parts) (.any others)
  /-- Negations. -/
  | not {part other : Predicate} (below : SameForm part other) : SameForm (.not part) (.not other)
  /-- Comparisons. -/
  | compare {left right otherLeft otherRight : Operand} (comparison : Comparison)
    (sameLeft : left.SameForm otherLeft) (sameRight : right.SameForm otherRight) :
    SameForm (.compare left comparison right) (.compare otherLeft comparison otherRight)
  /-- A field among literals. -/
  | member (path : String) {values others : List Literal} (negated : Bool)
    (same : List.Forall₂ Literal.SameForm values others) :
    SameForm (.member path values negated) (.member path others negated)
  /-- A field between literals. -/
  | between (path : String) {low high otherLow otherHigh : Literal}
    (sameLow : low.SameForm otherLow) (sameHigh : high.SameForm otherHigh) :
    SameForm (.between path low high) (.between path otherLow otherHigh)
  /-- A field that is null, or is not. -/
  | isNull (path : String) (negated : Bool) : SameForm (.isNull path negated) (.isNull path negated)
  /-- A field that holds a text. -/
  | text (path : String) (textMatch : TextMatch) (value other : String) (ignoresCase : Bool) :
    SameForm (.text path textMatch value ignoresCase) (.text path textMatch other ignoresCase)

/-- Two lists of predicates of one form. -/
inductive AllSameForm : List Predicate → List Predicate → Prop
  /-- No predicates. -/
  | nil : AllSameForm [] []
  /-- A predicate in front of others. -/
  | cons {part other : Predicate} {rest others : List Predicate} (first : SameForm part other)
    (below : AllSameForm rest others) : AllSameForm (part :: rest) (other :: others)

end

end Predicate

/-! ### Compiling -/

namespace Catalog

variable {catalog : Catalog} {typeName path : String} {leftFilter rightFilter : Filter}

theorem outline_compileComparison {comparison : Comparison} {left right : Literal}
    (form : left.SameForm right)
    (leftDone : catalog.compileComparison typeName path comparison left = .ok leftFilter)
    (rightDone : catalog.compileComparison typeName path comparison right = .ok rightFilter) :
    leftFilter.outline id = rightFilter.outline id := by
  rw [compileComparison_eq_ok] at leftDone rightDone
  rw [← form] at rightDone
  split at leftDone
  · rename_i absent
    rw [if_pos absent] at rightDone
    obtain ⟨access, leftRead, rfl⟩ := leftDone
    obtain ⟨other, rightRead, rfl⟩ := rightDone
    obtain rfl := Except.ok.inj (leftRead.symm.trans rightRead)
    rfl
  · rename_i present
    rw [if_neg present] at rightDone
    obtain ⟨access, leftRead, _, _, rfl⟩ := leftDone
    obtain ⟨other, rightRead, _, _, rfl⟩ := rightDone
    obtain rfl := Except.ok.inj (leftRead.symm.trans rightRead)
    rfl

/-- How members are looked for depends on how many there are, and on whether null is one. -/
theorem outline_memberFilter (access : Access) {parameters others : List Parameter}
    (same : parameters.length = others.length) (orNull negated : Bool) :
    (memberFilter access parameters orNull negated).outline id =
      (memberFilter access others orNull negated).outline id := by
  have forgotten : (parameters.map fun _ => Parameter.forgotten) =
      others.map fun _ => Parameter.forgotten := by
    rw [List.map_const', List.map_const', same]
  have empty : parameters.isEmpty = others.isEmpty := by
    rw [Bool.eq_iff_iff, List.isEmpty_iff_length_eq_zero, List.isEmpty_iff_length_eq_zero, same]
  have member : ∀ negated, (Filter.member access parameters negated).outline id =
      (Filter.member access others negated).outline id := by
    intro negated
    rw [Filter.outline, Filter.outline, forgotten]
  have either : (Filter.any [.member access parameters false, .isNull access false]).outline id =
      (Filter.any [.member access others false, .isNull access false]).outline id := by
    exact congrArg (fun first => Filter.any [first, Filter.outline id (.isNull access false)])
      (member false)
  rw [memberFilter, memberFilter, empty]
  cases orNull with
  | false =>
    cases others.isEmpty with
    | false => exact member negated
    | true => rfl
  | true =>
    cases others.isEmpty with
    | true => rfl
    | false =>
      cases negated with
      | false => exact either
      | true => exact congrArg Filter.not either

/-- As many literals are null among the ones as among the others. -/
theorem filter_isNull_of_sameForm {values others : List Literal}
    (form : List.Forall₂ Literal.SameForm values others) :
    (values.filter fun value => !value.isNull).length =
        (others.filter fun value => !value.isNull).length ∧
      values.any Literal.isNull = others.any Literal.isNull := by
  induction form with
  | nil => exact ⟨rfl, rfl⟩
  | @cons value other rest others first _ inductionHypothesis =>
    obtain ⟨lengths, nulls⟩ := inductionHypothesis
    have same : value.isNull = other.isNull := first
    refine ⟨?_, by rw [List.any_cons, List.any_cons, same, nulls]⟩
    rw [List.filter_cons, List.filter_cons, same]
    split
    · rw [List.length_cons, List.length_cons, lengths]
    · exact lengths

theorem outline_compileMember {left right : List Literal} {negated : Bool}
    (form : List.Forall₂ Literal.SameForm left right)
    (leftDone : catalog.compileMember typeName path left negated = .ok leftFilter)
    (rightDone : catalog.compileMember typeName path right negated = .ok rightFilter) :
    leftFilter.outline id = rightFilter.outline id := by
  obtain ⟨access, leftRead, parameters, leftBound, rfl⟩ := compileMember_eq_ok.mp leftDone
  obtain ⟨other, rightRead, others, rightBound, rfl⟩ := compileMember_eq_ok.mp rightDone
  obtain rfl := Except.ok.inj (leftRead.symm.trans rightRead)
  obtain ⟨lengths, nulls⟩ := filter_isNull_of_sameForm form
  rw [nulls]
  refine outline_memberFilter access ?_ _ negated
  rw [← (mapM_eq_ok.mp leftBound).length_eq, lengths, (mapM_eq_ok.mp rightBound).length_eq]

theorem outline_compileBetween {low high otherLow otherHigh : Literal}
    (leftDone : catalog.compileBetween typeName path low high = .ok leftFilter)
    (rightDone : catalog.compileBetween typeName path otherLow otherHigh = .ok rightFilter) :
    leftFilter.outline id = rightFilter.outline id := by
  obtain ⟨access, leftRead, _, _, _, _, rfl⟩ := compileBetween_eq_ok.mp leftDone
  obtain ⟨other, rightRead, _, _, _, _, rfl⟩ := compileBetween_eq_ok.mp rightDone
  obtain rfl := Except.ok.inj (leftRead.symm.trans rightRead)
  rfl

theorem outline_compileText {textMatch : TextMatch} {value other : String} {ignoresCase : Bool}
    (leftDone : catalog.compileText typeName path textMatch value ignoresCase = .ok leftFilter)
    (rightDone : catalog.compileText typeName path textMatch other ignoresCase = .ok rightFilter) :
    leftFilter.outline id = rightFilter.outline id := by
  obtain ⟨access, leftRead, rfl⟩ := compileText_eq_ok.mp leftDone
  obtain ⟨other, rightRead, rfl⟩ := compileText_eq_ok.mp rightDone
  obtain rfl := Except.ok.inj (leftRead.symm.trans rightRead)
  rfl

theorem outline_compile_compare {left right otherLeft otherRight : Operand}
    {comparison : Comparison} (formLeft : left.SameForm otherLeft)
    (formRight : right.SameForm otherRight)
    (leftDone : catalog.compile typeName (.compare left comparison right) = .ok leftFilter)
    (rightDone :
      catalog.compile typeName (.compare otherLeft comparison otherRight) = .ok rightFilter) :
    leftFilter.outline id = rightFilter.outline id := by
  cases formLeft with
  | field leftPath =>
    cases formRight with
    | field rightPath => rw [Except.ok.inj (leftDone.symm.trans rightDone)]
    | literal same => exact outline_compileComparison same leftDone rightDone
  | literal same =>
    cases formRight with
    | field rightPath => exact outline_compileComparison same leftDone rightDone
    | literal _ => exact absurd leftDone (by simp [compile])

mutual

/-- What is compiled from predicates of one form differs in parameters alone. -/
theorem outline_compile {left right : Predicate} (form : left.SameForm right)
    {leftFilter rightFilter : Filter}
    (leftDone : catalog.compile typeName left = .ok leftFilter)
    (rightDone : catalog.compile typeName right = .ok rightFilter) :
    leftFilter.outline id = rightFilter.outline id := by
  match form with
  | .all below =>
    obtain ⟨parts, leftParts, leftDone⟩ := bind_eq_ok.mp leftDone
    obtain ⟨others, rightParts, rightDone⟩ := bind_eq_ok.mp rightDone
    obtain rfl := Except.ok.inj leftDone
    obtain rfl := Except.ok.inj rightDone
    exact congrArg Filter.all (outlineAll_compileAll below leftParts rightParts)
  | .any below =>
    obtain ⟨parts, leftParts, leftDone⟩ := bind_eq_ok.mp leftDone
    obtain ⟨others, rightParts, rightDone⟩ := bind_eq_ok.mp rightDone
    obtain rfl := Except.ok.inj leftDone
    obtain rfl := Except.ok.inj rightDone
    exact congrArg Filter.any (outlineAll_compileAll below leftParts rightParts)
  | .not below =>
    obtain ⟨part, leftPart, leftDone⟩ := bind_eq_ok.mp leftDone
    obtain ⟨other, rightPart, rightDone⟩ := bind_eq_ok.mp rightDone
    obtain rfl := Except.ok.inj leftDone
    obtain rfl := Except.ok.inj rightDone
    exact congrArg Filter.not (outline_compile below leftPart rightPart)
  | .compare _ sameLeft sameRight =>
    exact outline_compile_compare sameLeft sameRight leftDone rightDone
  | .member _ _ same => exact outline_compileMember same leftDone rightDone
  | .between _ _ _ => exact outline_compileBetween leftDone rightDone
  | .isNull _ _ => rw [Except.ok.inj (leftDone.symm.trans rightDone)]
  | .text _ _ _ _ _ => exact outline_compileText leftDone rightDone

theorem outlineAll_compileAll {left right : List Predicate}
    (form : Predicate.AllSameForm left right) {leftFilters rightFilters : List Filter}
    (leftDone : catalog.compileAll typeName left = .ok leftFilters)
    (rightDone : catalog.compileAll typeName right = .ok rightFilters) :
    Filter.outlineAll id leftFilters = Filter.outlineAll id rightFilters := by
  match form with
  | .nil => rw [Except.ok.inj (leftDone.symm.trans rightDone)]
  | .cons first below =>
    obtain ⟨part, leftPart, leftDone⟩ := bind_eq_ok.mp leftDone
    obtain ⟨parts, leftParts, leftDone⟩ := bind_eq_ok.mp leftDone
    obtain ⟨other, rightPart, rightDone⟩ := bind_eq_ok.mp rightDone
    obtain ⟨others, rightParts, rightDone⟩ := bind_eq_ok.mp rightDone
    obtain rfl := Except.ok.inj leftDone
    obtain rfl := Except.ok.inj rightDone
    rw [Filter.outlineAll, Filter.outlineAll, outline_compile first leftPart rightPart,
      outlineAll_compileAll below leftParts rightParts]

end

end Catalog

/-! ### Planning -/

namespace Planner

variable {planner : Planner} {typeName : String} {left right : Predicate}

theorem asked?_of_sameForm (form : left.SameForm right) :
    left = right ∨ asked? (some left) = some left ∧ asked? (some right) = some right := by
  cases form with
  | all below =>
    cases below with
    | nil => exact .inl rfl
    | cons first below => exact .inr ⟨rfl, rfl⟩
  | _ => exact .inr ⟨rfl, rfl⟩

theorem outline_eq_of_compile (form : left.SameForm right) {leftFilter rightFilter : Filter}
    (leftDone : planner.compile typeName (some left) = .ok leftFilter)
    (rightDone : planner.compile typeName (some right) = .ok rightFilter) :
    leftFilter.outline id = rightFilter.outline id := by
  rcases asked?_of_sameForm form with rfl | ⟨leftAsked, rightAsked⟩
  · rw [Except.ok.inj (leftDone.symm.trans rightDone)]
  · obtain ⟨_, _, leftDone⟩ := bind_eq_ok.mp leftDone
    obtain ⟨_, _, rightDone⟩ := bind_eq_ok.mp rightDone
    rw [leftAsked] at leftDone
    rw [rightAsked] at rightDone
    exact Catalog.outline_compile form leftDone rightDone

/-- Two plans that are one command but for the parameters. -/
def SameText (left right : Except Rejection Sql.Command) : Prop :=
  ∃ leftCommand rightCommand, left = .ok leftCommand ∧ right = .ok rightCommand ∧
    leftCommand.text = rightCommand.text ∧ leftCommand.fingerprint = rightCommand.fingerprint

/-- Literals never reach a text. Where two predicates of one form can both be planned, each of the
three commands for the one has the text, and so the fingerprint, of that for the other. -/
theorem sameText_of_sameForm (form : left.SameForm right)
    (leftPlanned : (planner.whereClause typeName (some left)).isOk = true ∨
      (planner.select typeName (some left)).isOk = true ∨
      (planner.count typeName (some left)).isOk = true)
    (rightPlanned : (planner.whereClause typeName (some right)).isOk = true ∨
      (planner.select typeName (some right)).isOk = true ∨
      (planner.count typeName (some right)).isOk = true) :
    SameText (planner.whereClause typeName (some left))
        (planner.whereClause typeName (some right)) ∧
      SameText (planner.select typeName (some left)) (planner.select typeName (some right)) ∧
      SameText (planner.count typeName (some left)) (planner.count typeName (some right)) := by
  obtain ⟨documentType, leftFilter, described, leftDone⟩ := exists_of_planned leftPlanned
  obtain ⟨_, rightFilter, _, rightDone⟩ := exists_of_planned rightPlanned
  obtain ⟨conditions, selections, countings⟩ := Filter.texts_eq_of_outline_eq planner.options
    (outline_eq_of_compile form leftDone rightDone) documentType.table
  obtain ⟨leftCondition, leftSelection, leftCounting⟩ := plans_of_compile described leftDone
  obtain ⟨rightCondition, rightSelection, rightCounting⟩ := plans_of_compile described rightDone
  exact ⟨⟨_, _, leftCondition, rightCondition, conditions, congrArg Blake3.hexDigest conditions⟩,
    ⟨_, _, leftSelection, rightSelection, selections, congrArg Blake3.hexDigest selections⟩,
    ⟨_, _, leftCounting, rightCounting, countings, congrArg Blake3.hexDigest countings⟩⟩

/-- Meetings at one time or none, and at another time or none, are looked for with one text. -/
theorem sameText_meetings :
    let planner : Planner := ⟨.meetings .extracted rfl, .standard⟩
    let asked : Literal → Predicate := fun start =>
      .not (.any [.member "Start" [.null, start] true, .ofLiteral start .lt "Start"])
    SameText (planner.whereClause "Meeting" (some (asked (.utc ⟨⟨0, 0⟩⟩))))
        (planner.whereClause "Meeting" (some (asked (.naive ⟨1, 5⟩)))) ∧
      SameText (planner.select "Meeting" (some (asked (.utc ⟨⟨0, 0⟩⟩))))
        (planner.select "Meeting" (some (asked (.naive ⟨1, 5⟩)))) ∧
      SameText (planner.count "Meeting" (some (asked (.utc ⟨⟨0, 0⟩⟩))))
        (planner.count "Meeting" (some (asked (.naive ⟨1, 5⟩)))) := by
  intro planner asked
  have literals : Literal.SameForm (.utc ⟨⟨0, 0⟩⟩) (.naive ⟨1, 5⟩) := rfl
  have form : (asked (.utc ⟨⟨0, 0⟩⟩)).SameForm (asked (.naive ⟨1, 5⟩)) :=
    .not (.any (.cons (.member "Start" true (.cons rfl (.cons literals .nil)))
      (.cons (.compare .lt (.literal literals) (.field "Start")) .nil)))
  exact sameText_of_sameForm form (.inl rfl) (.inl rfl)

end Planner

end Sieve
