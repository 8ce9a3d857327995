/-
This file proves that the short forms of a predicate say what they abbreviate. A field
among literals is a field that equals one of them, a field between two literals is one
that is not below the first and not above the second, and a comparison whose sides have
changed places is the flipped comparison. The leaves are compiled to filters of quite
different shapes, but all of them read the one field in the one way and then judge its
value; so each shape is compared by the judgement that it makes. The row is any row.
-/

import Sieve.Proofs.Filter.Meaning

namespace Sieve

open Calendar Outcome

/-! ### Comparisons whose sides change places -/

theorem Double.compare?_swap (left right : Double) :
    right.compare? left = (left.compare? right).map Ordering.swap := by
  rw [compare?, compare?, Bool.or_comm]
  split
  · rfl
  · exact congrArg some Std.OrientedOrd.eq_swap

theorem Calendar.WallClock.compare_swap (left right : WallClock) :
    right.compare left = (left.compare right).swap := by
  rw [compare, compare, Ordering.swap_then, ← Std.OrientedOrd.eq_swap, ← Std.OrientedOrd.eq_swap]

/-- The order of two values turns around with them; where they have none, they have none the other
way either. -/
theorem Datum.compare?_swap (left right : Datum) :
    right.compare? left = (left.compare? right).map Ordering.swap := by
  cases left <;> cases right <;> try rfl
  case bool.bool | int.int | uuid.uuid => exact congrArg some Std.OrientedOrd.eq_swap
  case int.float | float.int | float.float => exact Double.compare?_swap _ _
  case timestamp.timestamp | timestampTz.timestampTz =>
    exact congrArg some (WallClock.compare_swap _ _)
  case text.text =>
    exact congrArg some
      (compareOfLessAndEq_eq_swap String.le_antisymm String.le_total String.not_le)

namespace Comparison

theorem holds_flip_swap (comparison : Comparison) (order : Ordering) :
    comparison.flip.holds order.swap = comparison.holds order := by
  cases comparison <;> cases order <;> rfl

@[simp]
theorem operatorClass_flip (comparison : Comparison) :
    comparison.flip.operatorClass = comparison.operatorClass := by
  cases comparison <;> rfl

/-- A comparison of two values has the truth of the flipped one with its sides changed. -/
theorem truth_flip (comparison : Comparison) (left right : Datum) :
    comparison.flip.truth right left = comparison.truth left right := by
  rw [truth, truth, Datum.compare?_swap left right, Option.map_map]
  exact congrArg (Option.map · _) (funext comparison.holds_flip_swap)

end Comparison

theorem ColumnType.comparesWith_comm (left right : ColumnType) :
    left.comparesWith right = right.comparesWith left := by
  rw [comparesWith, comparesWith, Bool.and_comm, BEq.comm]

/-! ### Filters that judge the value of one field -/

/-- A filter that reads a field once and judges the value, whatever the row. -/
def Filter.Judges (access : Access) (filter : Filter) (judgement : Datum → Truth) : Prop :=
  ∀ row, filter.evaluate row =
    access.source.evaluate row >>= fun value => pure (judgement value)

/-- Filters that judge the value of one field read it with one result. -/
theorem Filter.evaluateAll_of_judges {access : Access} {filters : List Filter}
    {judgements : List (Datum → Truth)}
    (judged : List.Forall₂ (Judges access) filters judgements) (some : filters ≠ []) (row : Row) :
    evaluateAll row filters =
      access.source.evaluate row >>= fun value => pure (judgements.map (· value)) := by
  have first (filter : Filter) (rest : List Filter) :
      evaluateAll row (filter :: rest) =
        filter.evaluate row >>= fun truth => evaluateAll row rest >>= fun truths =>
          pure (truth :: truths) := rfl
  cases read : access.source.evaluate row with
  | error error =>
    cases judged with
    | nil => exact absurd rfl some
    | cons here below => rw [first, here row, read, error_bind, error_bind, error_bind]
  | ok value =>
    clear some
    rw [ok_bind]
    induction judged with
    | nil => rfl
    | cons here below inductionHypothesis =>
      rw [first, here row, read, inductionHypothesis]
      rfl

/-- The truth of a comparison of a value with a parameter; being equal to null means being
null. -/
def Parameter.comparedBy (parameter : Parameter) (comparison : Comparison) (value : Datum) :
    Truth :=
  if parameter.value.isNull = true ∧ comparison.operatorClass = .equality then
    some (value.isNull != (comparison == .ne))
  else comparison.truth value parameter.value

theorem Datum.isNull_keptIn (type : ColumnType) (value : Datum) :
    (value.keptIn type).isNull = value.isNull := by
  cases type <;> cases value <;> rfl

theorem Literal.isNull_of_datum? {literal : Literal} {kind : Kind} {type : ColumnType}
    {value : Datum} (means : literal.datum? kind type = some value) :
    literal.isNull = false ∧ value.isNull = false := by
  cases literal <;> cases kind <;> first
    | (rw [← Option.some.inj means]; exact ⟨rfl, rfl⟩)
    | (obtain ⟨_, _, rfl⟩ := Option.map_eq_some_iff.mp means; exact ⟨rfl, rfl⟩)
    | (rw [← Option.some.inj means]; split <;> exact ⟨rfl, rfl⟩)
    | exact absurd means nofun

/-- Only null is bound as null. -/
theorem Access.isNull_of_bind {access : Access} {literal : Literal} {parameter : Parameter}
    (bound : access.bind literal = .ok parameter) :
    parameter.value.isNull = literal.isNull := by
  rw [bind] at bound
  split at bound
  · rename_i absent
    rw [← Except.ok.inj bound, absent]
    rfl
  · split at bound
    · rename_i value means
      obtain ⟨present, something⟩ := Literal.isNull_of_datum? means
      rw [← Except.ok.inj bound, Datum.isNull_keptIn, something, present]
    · exact absurd bound (by simp)

theorem Parameter.comparedBy_of_ordering (parameter : Parameter) {comparison : Comparison}
    (ordering : comparison.operatorClass = .ordering) (value : Datum) :
    parameter.comparedBy comparison value = comparison.truth value parameter.value :=
  if_neg (by simp [ordering])

/-- Whether a value equals a literal, given what the literal is bound as; where it cannot be bound
nothing is known. -/
def Access.equals (access : Access) (value : Datum) (literal : Literal) : Truth :=
  match access.bind literal with
  | .ok parameter => parameter.comparedBy .eq value
  | .error _ => none

section

variable {access : Access} {literal : Literal} {parameter : Parameter}

theorem Access.equals_of_bind (bound : access.bind literal = .ok parameter) (value : Datum) :
    access.equals value literal = parameter.comparedBy .eq value := by
  rw [equals, bound]

theorem Access.equals_of_isNull (access : Access) (value : Datum) (absent : literal.isNull = true) :
    access.equals value literal = some value.isNull := by
  rw [equals_of_bind (if_pos absent), Parameter.comparedBy, if_pos ⟨rfl, rfl⟩]
  exact congrArg some (Bool.bne_false _)

theorem Access.equals_of_present (bound : access.bind literal = .ok parameter) (value : Datum)
    (present : literal.isNull = false) :
    access.equals value literal = Comparison.eq.truth value parameter.value := by
  rw [equals_of_bind bound, Parameter.comparedBy, isNull_of_bind bound, present,
    if_neg (by simp)]

end

/-! ### What leaves are compiled to -/

namespace Catalog

variable {catalog : Catalog} {typeName path : String} {access : Access} {filter : Filter}

/-- A field that can be read for an operator can be read for others of its class, and for equality
and null, and is then read in the same way. -/
theorem literalAccess_of_operatorClass {operator other : Operator}
    (accessed : catalog.literalAccess typeName path operator = .ok access)
    (asked : other.operatorClass = operator.operatorClass ∨ other.operatorClass = .equality ∨
      other.operatorClass = .nullness) :
    catalog.literalAccess typeName path other = .ok access := by
  obtain ⟨field, resolved, read⟩ := literalAccess_eq_ok.mp accessed
  obtain ⟨supported, answered, rfl⟩ := Field.literalAccess_eq_ok.mp read
  refine literalAccess_eq_ok.mpr ⟨field, resolved, Field.literalAccess_eq_ok.mpr
    ⟨?_, fun column type stored => ?_, rfl⟩⟩
  · rcases asked with same | same | same <;> rw [same]
    · exact supported
    all_goals cases field.kind <;> rfl
  · obtain ⟨storable, answers⟩ := answered column type stored
    refine ⟨storable, ?_⟩
    rw [Field.answers] at answers ⊢
    rcases asked with same | same | same <;> rw [same]
    exact answers

theorem fieldAccess_of_operatorClass {operator other : Operator}
    (accessed : catalog.fieldAccess typeName path operator = .ok access)
    (same : other.operatorClass = operator.operatorClass) :
    catalog.fieldAccess typeName path other = .ok access := by
  obtain ⟨field, resolved, read⟩ := fieldAccess_eq_ok.mp accessed
  obtain ⟨supported, storable, rfl⟩ := Field.fieldAccess_eq_ok.mp read
  exact fieldAccess_eq_ok.mpr ⟨field, resolved, Field.fieldAccess_eq_ok.mpr
    ⟨same ▸ supported, storable, rfl⟩⟩

/-- A comparison with a literal that can be bound is compiled, and judges the field by the
parameter. -/
theorem judges_of_bind {comparison : Comparison} {literal : Literal} {parameter : Parameter}
    (accessed : catalog.literalAccess typeName path (.compare comparison) = .ok access)
    (bound : access.bind literal = .ok parameter) :
    ∃ filter, catalog.compileComparison typeName path comparison literal = .ok filter ∧
      filter.Judges access (parameter.comparedBy comparison) := by
  have null := Access.isNull_of_bind bound
  by_cases absent : literal.isNull = true ∧ comparison.operatorClass = .equality
  · refine ⟨.isNull access (comparison == .ne), compileComparison_eq_ok.mpr ?_, fun row => ?_⟩
    · rw [if_pos absent]
      exact ⟨access, literalAccess_of_operatorClass accessed (.inr (.inr rfl)), rfl⟩
    · simp only [Filter.evaluate, Parameter.comparedBy, null, if_pos absent]
  · refine ⟨.compare access comparison parameter, compileComparison_eq_ok.mpr ?_, fun row => ?_⟩
    · rw [if_neg absent]
      exact ⟨access, accessed, parameter, bound, rfl⟩
    · simp only [Filter.evaluate, Parameter.comparedBy, null, if_neg absent]

/-- Whatever a comparison with a literal is compiled to judges the field, as it is stored, by the
parameter that the literal is bound as. -/
theorem judges_of_compileComparison {comparison : Comparison} {literal : Literal}
    (compiled : catalog.compileComparison typeName path comparison literal = .ok filter) :
    ∃ field parameter, catalog.resolve typeName path = .ok field ∧
      field.access.bind literal = .ok parameter ∧
      filter.Judges field.access (parameter.comparedBy comparison) := by
  have read : ∃ access parameter,
      catalog.literalAccess typeName path (.compare comparison) = .ok access ∧
        access.bind literal = .ok parameter := by
    have shape := compileComparison_eq_ok.mp compiled
    split at shape
    · rename_i absent
      obtain ⟨access, accessed, _⟩ := shape
      exact ⟨access, _, literalAccess_of_operatorClass accessed (.inr (.inl absent.2)),
        if_pos absent.1⟩
    · obtain ⟨access, accessed, parameter, bound, _⟩ := shape
      exact ⟨access, parameter, accessed, bound⟩
  obtain ⟨access, parameter, accessed, bound⟩ := read
  obtain ⟨other, same, judges⟩ := judges_of_bind accessed bound
  obtain rfl := Except.ok.inj (compiled.symm.trans same)
  obtain ⟨field, resolved, found⟩ := literalAccess_eq_ok.mp accessed
  obtain ⟨_, _, rfl⟩ := Field.literalAccess_eq_ok.mp found
  exact ⟨field, parameter, resolved, bound, judges⟩

/-- Predicates are compiled one by one. -/
theorem compileAll_map {Part Image : Type} (predicate : Part → Predicate) (image : Part → Image)
    (holds : Filter → Image → Prop) {parts : List Part}
    (each : ∀ part ∈ parts, ∃ filter,
      catalog.compile typeName (predicate part) = .ok filter ∧ holds filter (image part)) :
    ∃ filters, catalog.compileAll typeName (parts.map predicate) = .ok filters ∧
      List.Forall₂ holds filters (parts.map image) := by
  induction parts with
  | nil => exact ⟨[], rfl, .nil⟩
  | cons part rest inductionHypothesis =>
    obtain ⟨first, below⟩ := List.forall_mem_cons.mp each
    obtain ⟨filter, compiled, here⟩ := first
    obtain ⟨filters, others, there⟩ := inductionHypothesis below
    refine ⟨filter :: filters, ?_, .cons here there⟩
    rw [List.map_cons, compileAll, compiled, others]
    rfl

/-! ### Members and ranges -/

/-- A field among literals is judged as one that equals one of them, be they null or not. -/
theorem evaluate_compileMember_eq {literals : List Literal} {negated : Bool}
    (compiled : catalog.compileMember typeName path literals negated = .ok filter) :
    ∃ equals, catalog.compileAll typeName (literals.map (.equal path)) = .ok equals ∧
      ∀ row, filter.evaluate row = (Filter.any equals).evaluate row >>= fun truth =>
        pure (Truth.signed negated truth) := by
  obtain ⟨access, accessed, parameters, bound, rfl⟩ := compileMember_eq_ok.mp compiled
  have equality : catalog.literalAccess typeName path (.compare .eq) = .ok access :=
    literalAccess_of_operatorClass accessed (.inl rfl)
  have bindable : ∀ literal ∈ literals, ∃ parameter, access.bind literal = .ok parameter := by
    intro literal inside
    by_cases absent : literal.isNull = true
    · exact ⟨_, if_pos absent⟩
    · exact exists_of_mapM_eq_ok bound (List.mem_filter.mpr ⟨inside, by simpa using absent⟩)
  obtain ⟨equals, compiledAll, judged⟩ := compileAll_map (Predicate.equal path)
    (fun literal value => access.equals value literal) (Filter.Judges access)
    fun literal inside => by
      obtain ⟨parameter, same⟩ := bindable literal inside
      obtain ⟨filter, compiled, judges⟩ := judges_of_bind equality same
      exact ⟨filter, compiled, funext (Access.equals_of_bind same) ▸ judges⟩
  refine ⟨equals, compiledAll, fun row => ?_⟩
  have none : parameters = [] ↔ (literals.filter fun literal => !literal.isNull) = [] := by
    rw [← List.length_eq_zero_iff, ← (mapM_eq_ok.mp bound).length_eq, List.length_eq_zero_iff]
  rw [Filter.evaluate_memberFilter, Filter.evaluate]
  simp only [none, Literal.eq_nil_iff]
  split
  · rename_i empty
    rw [empty, List.map_nil, List.forall₂_nil_right_iff] at judged
    rw [judged]
    cases negated <;> rfl
  · rename_i some
    have present : equals ≠ [] := by
      rintro rfl
      exact some (List.map_eq_nil_iff.mp (List.forall₂_nil_left_iff.mp judged))
    rw [Filter.evaluateAll_of_judges judged present]
    cases access.source.evaluate row with
    | error error => rfl
    | ok value =>
      have compared : (parameters.map fun parameter =>
            Comparison.eq.truth value parameter.value) =
          (literals.filter fun literal => !literal.isNull).map (access.equals value) := by
        refine map_of_mapM_eq_ok (fun literal inside parameter same => ?_) bound
        have something : literal.isNull = false := by simpa using (List.mem_filter.mp inside).2
        exact (Access.equals_of_present same value something).symm
      simp only [ok_bind, pure_eq_ok]
      rw [compared, List.map_map,
        Literal.disjunction_nulls_apart fun literal => access.equals_of_isNull value]
      rfl

/-- A field between two literals is judged as one that is not below the one and not above the
other. -/
theorem evaluate_compileBetween_eq {low high : Literal}
    (compiled : catalog.compileBetween typeName path low high = .ok filter) :
    ∃ bounds, catalog.compileAll typeName [.ofField path .ge low, .ofField path .le high] =
        .ok bounds ∧
      ∀ row, filter.evaluate row = (Filter.all bounds).evaluate row := by
  obtain ⟨access, accessed, lowParameter, boundLow, highParameter, boundHigh, rfl⟩ :=
    compileBetween_eq_ok.mp compiled
  have reads (comparison : Comparison) (ordering : comparison.operatorClass = .ordering) :
      catalog.literalAccess typeName path (.compare comparison) = .ok access :=
    literalAccess_of_operatorClass accessed (.inl ordering)
  obtain ⟨lowFilter, compiledLow, judgesLow⟩ := judges_of_bind (reads .ge rfl) boundLow
  obtain ⟨highFilter, compiledHigh, judgesHigh⟩ := judges_of_bind (reads .le rfl) boundHigh
  refine ⟨[lowFilter, highFilter], ?_, fun row => ?_⟩
  · simp only [compileAll, Predicate.ofField, compile, compiledLow, compiledHigh]
    rfl
  · rw [Filter.evaluate, Filter.evaluate,
      Filter.evaluateAll_of_judges (.cons judgesLow (.cons judgesHigh .nil)) (by simp)]
    cases access.source.evaluate row with
    | error error => rfl
    | ok value =>
      simp only [ok_bind, pure_eq_ok, List.map_cons, List.map_nil, Filter.betweenTruth,
        lowParameter.comparedBy_of_ordering (show Comparison.ge.operatorClass = _ from rfl),
        highParameter.comparedBy_of_ordering (show Comparison.le.operatorClass = _ from rfl)]

/-! ### Two fields -/

/-- Two fields compare as they do with their sides changed by the flipped comparison; where both
fail, the field that is read first says why. -/
theorem evaluate_compileFields_flip {left right : String} {comparison : Comparison}
    (compiled : catalog.compileFields typeName left comparison right = .ok filter) :
    ∃ flipped, catalog.compileFields typeName right comparison.flip left = .ok flipped ∧
      ∀ row, (flipped.evaluate row).toOption = (filter.evaluate row).toOption := by
  obtain ⟨leftAccess, leftAccessed, rightAccess, rightAccessed, comparable, rfl⟩ :=
    compileFields_eq_ok.mp compiled
  have same : (Operator.compare comparison.flip).operatorClass =
      (Operator.compare comparison).operatorClass := comparison.operatorClass_flip
  refine ⟨.compareFields rightAccess comparison.flip leftAccess, ?_, fun row => ?_⟩
  · exact compileFields_eq_ok.mpr ⟨rightAccess, fieldAccess_of_operatorClass rightAccessed same,
      leftAccess, fieldAccess_of_operatorClass leftAccessed same,
      (ColumnType.comparesWith_comm _ _).trans comparable, rfl⟩
  · rw [Filter.evaluate, Filter.evaluate]
    cases leftAccess.source.evaluate row with
    | error error => cases rightAccess.source.evaluate row <;> rfl
    | ok leftValue =>
      cases rightAccess.source.evaluate row with
      | error error => rfl
      | ok rightValue =>
        rw [ok_bind, ok_bind, ok_bind, ok_bind, comparison.truth_flip]

/-! ### Leaves -/

/-- Every leaf that is compiled says, on every row, what it abbreviates. Being among literals is
being equal to one of them, where being equal to null is being null, and not being among them is
the negation of that. Being between two literals is being at least the one and at most the other.
A literal in front of a field is compared with it in the order in which they are written, where
null is again equal to just what is null. Two fields may change places if the comparison is
flipped; this keeps the truth, and it fails where they fail. -/
theorem evaluate_leaf_eq (catalog : Catalog) (typeName : String) :
    (∀ path literals negated filter,
      catalog.compile typeName (.member path literals negated) = .ok filter →
        ∃ equals, catalog.compile typeName
            (if negated then .not (.any (literals.map (.equal path)))
              else .any (literals.map (.equal path))) = .ok equals ∧
          ∀ row, filter.evaluate row = equals.evaluate row) ∧
      (∀ path, catalog.compile typeName (.equal path .null) =
        catalog.compile typeName (.isNull path false)) ∧
      (∀ path low high filter,
        catalog.compile typeName (.between path low high) = .ok filter →
          ∃ bounds, catalog.compile typeName
              (.all [.ofField path .ge low, .ofField path .le high]) = .ok bounds ∧
            ∀ row, filter.evaluate row = bounds.evaluate row) ∧
      (∀ path comparison (literal : Literal) filter,
        catalog.compile typeName (.ofLiteral literal comparison path) = .ok filter →
          ∃ field parameter, catalog.resolve typeName path = .ok field ∧
            field.access.bind literal = .ok parameter ∧
            ∀ row, filter.evaluate row =
              field.access.source.evaluate row >>= fun value =>
                pure (if literal.isNull = true ∧ comparison.operatorClass = .equality then
                  some (value.isNull != (comparison == .ne))
                else comparison.truth parameter.value value)) ∧
      ∀ left comparison right filter,
        catalog.compile typeName (.ofFields left comparison right) = .ok filter →
          ∃ flipped, catalog.compile typeName (.ofFields right comparison.flip left) =
              .ok flipped ∧
            ∀ row, (flipped.evaluate row).toOption = (filter.evaluate row).toOption := by
  refine ⟨?_, fun path => rfl, ?_, ?_, ?_⟩
  · intro path literals negated filter compiled
    obtain ⟨equals, compiledAll, same⟩ := evaluate_compileMember_eq compiled
    cases negated with
    | false =>
      refine ⟨.any equals, ?_, fun row => ?_⟩
      · simp only [compile, compiledAll, Bool.false_eq_true, if_false, ok_bind, pure_eq_ok]
      · rw [same]
        cases (Filter.any equals).evaluate row <;> rfl
    | true =>
      refine ⟨.not (.any equals), ?_, same⟩
      simp only [compile, compiledAll, if_true, ok_bind, pure_eq_ok]
  · intro path low high filter compiled
    obtain ⟨bounds, compiledAll, same⟩ := evaluate_compileBetween_eq compiled
    refine ⟨.all bounds, ?_, same⟩
    simp only [compile, compiledAll, ok_bind, pure_eq_ok]
  · intro path comparison literal filter compiled
    obtain ⟨field, parameter, resolved, bound, judges⟩ := judges_of_compileComparison compiled
    refine ⟨field, parameter, resolved, bound, fun row => ?_⟩
    have null := Access.isNull_of_bind bound
    have sign : (comparison.flip == .ne) = (comparison == .ne) := by cases comparison <;> rfl
    simp only [judges row, Parameter.comparedBy, null, comparison.operatorClass_flip, sign,
      comparison.truth_flip]
  · intro left comparison right filter compiled
    exact evaluate_compileFields_flip compiled

/-- Four leaves about the start of a meeting that are compiled, and what they abbreviate: a list
with null in it, a range without a lower end, an instant in front of the field, and the field on
both sides. -/
theorem evaluate_leaf_eq_meetings :
    ∃ members equals range bounds before field parameter reflexive flipped,
      ((meetings .extracted rfl).compile "Meeting"
            (.member "Start" [.utc ⟨⟨0, 0⟩⟩, .null] true) = .ok members ∧
          (meetings .extracted rfl).compile "Meeting"
            (.not (.any [.equal "Start" (.utc ⟨⟨0, 0⟩⟩), .equal "Start" .null])) = .ok equals ∧
          ∀ row, members.evaluate row = equals.evaluate row) ∧
        ((meetings .extracted rfl).compile "Meeting"
            (.between "Start" .null (.utc ⟨⟨0, 0⟩⟩)) = .ok range ∧
          (meetings .extracted rfl).compile "Meeting"
            (.all [.ofField "Start" .ge .null, .ofField "Start" .le (.utc ⟨⟨0, 0⟩⟩)]) = .ok bounds ∧
          ∀ row, range.evaluate row = bounds.evaluate row) ∧
        ((meetings .extracted rfl).compile "Meeting"
            (.ofLiteral (.utc ⟨⟨0, 0⟩⟩) .lt "Start") = .ok before ∧
          (meetings .extracted rfl).resolve "Meeting" "Start" = .ok field ∧
          field.access.bind (.utc ⟨⟨0, 0⟩⟩) = .ok parameter ∧
          ∀ row, before.evaluate row = field.access.source.evaluate row >>= fun value =>
            pure (Comparison.lt.truth parameter.value value)) ∧
        (meetings .extracted rfl).compile "Meeting" (.ofFields "Start" .le "Start") =
            .ok reflexive ∧
          (meetings .extracted rfl).compile "Meeting" (.ofFields "Start" .ge "Start") =
            .ok flipped ∧
          ∀ row, (flipped.evaluate row).toOption = (reflexive.evaluate row).toOption := by
  obtain ⟨member, _, between, before, fields⟩ :=
    evaluate_leaf_eq (meetings .extracted rfl) "Meeting"
  obtain ⟨equals, equalsCompiled, membersSame⟩ :=
    member "Start" [.utc ⟨⟨0, 0⟩⟩, .null] true _ rfl
  obtain ⟨bounds, boundsCompiled, rangeSame⟩ := between "Start" .null (.utc ⟨⟨0, 0⟩⟩) _ rfl
  obtain ⟨field, parameter, resolved, bound, judged⟩ :=
    before "Start" .lt (.utc ⟨⟨0, 0⟩⟩) _ rfl
  obtain ⟨flipped, flippedCompiled, fieldsSame⟩ := fields "Start" .le "Start" _ rfl
  exact ⟨_, equals, _, bounds, _, field, parameter, _, flipped, ⟨rfl, equalsCompiled, membersSame⟩,
    ⟨rfl, boundsCompiled, rangeSame⟩, ⟨rfl, resolved, bound, judged⟩, rfl, flippedCompiled,
    fieldsSame⟩

end Catalog

end Sieve
