/-
This file proves that the laws of negation, conjunction and disjunction survive unknown
truths and failing evaluations. All parts of a combination are evaluated before their
truths are put together, so no truth of one part hides the failure of another: in any
order either all truths are found, and then only which truths there are matters, or
one of the parts fails, and then so does the combination.
-/

import Sieve.Proofs.Filter.Meaning

namespace Sieve

open Outcome

/-! ### Truths -/

namespace Truth

theorem negation_negation (truth : Truth) : truth.negation.negation = truth := by
  rcases truth with _ | _ | _ <;> rfl

theorem contains_map_negation (truths : List Truth) (truth : Truth) :
    (truths.map negation).contains truth = truths.contains truth.negation := by
  rw [Bool.eq_iff_iff, List.contains_iff_mem, List.contains_iff_mem, List.mem_map]
  constructor
  · rintro ⟨other, inside, rfl⟩
    rwa [negation_negation]
  · intro inside
    exact ⟨_, inside, negation_negation truth⟩

/-- Not any of some truths holds where all opposites do. -/
theorem negation_disjunction (truths : List Truth) :
    (disjunction truths).negation = conjunction (truths.map negation) := by
  rw [disjunction, conjunction, contains_map_negation, contains_map_negation]
  show _ = if truths.contains (some true) then some false
    else if truths.contains none then none else some true
  split
  · rfl
  · split <;> rfl

/-- Not all of some truths hold where any opposite does. -/
theorem negation_conjunction (truths : List Truth) :
    (conjunction truths).negation = disjunction (truths.map negation) := by
  have opposites : (truths.map negation).map negation = truths := by
    rw [List.map_map]
    exact (List.map_congr_left fun truth _ => negation_negation truth).trans (List.map_id _)
  rw [← negation_negation (disjunction _), negation_disjunction, opposites]

theorem conjunction_eq (truths : List Truth) :
    conjunction truths = (disjunction (truths.map negation)).negation := by
  rw [← negation_conjunction, negation_negation]

/-- A way to put truths together in which neither their order matters nor whether some of them
have been put together before. -/
structure Associates (combine : List Truth → Truth) : Prop where
  /-- The order does not matter. -/
  reordered : ∀ {truths others : List Truth}, truths.Perm others → combine truths = combine others
  /-- Some truths in a row may be put together first. -/
  flattened : ∀ before inner after : List Truth,
    combine (before ++ combine inner :: after) = combine (before ++ inner ++ after)

theorem associates_disjunction : Associates disjunction where
  reordered permuted := disjunction_congr fun _ => permuted.mem_iff
  flattened before inner after := by
    have member : disjunction (disjunction inner :: after) = disjunction (inner ++ after) := by
      rw [← List.singleton_append, disjunction_append, disjunction_singleton, ← disjunction_append]
    rw [disjunction_append, member, ← disjunction_append, List.append_assoc]

theorem associates_conjunction : Associates conjunction where
  reordered permuted := by
    rw [conjunction_eq, conjunction_eq, associates_disjunction.reordered (permuted.map negation)]
  flattened before inner after := by
    have dual := associates_disjunction.flattened (before.map negation) (inner.map negation)
      (after.map negation)
    rw [conjunction_eq, conjunction_eq (before ++ inner ++ after), List.map_append, List.map_cons,
      negation_conjunction, dual, List.map_append, List.map_append]

end Truth

/-! ### Filters -/

namespace Filter

variable {row : Row} {combine : List Truth → Truth}

/-- Two filters that come to the same truth on a row, or both fail, perhaps with errors of their
own. -/
def SameTruth (row : Row) (left right : Filter) : Prop :=
  (∀ truth, left.evaluate row = .ok truth ↔ right.evaluate row = .ok truth) ∧
    ((∃ error, left.evaluate row = .error error) ↔ ∃ error, right.evaluate row = .error error)

/-- Whether a filter puts the truths of some parts together in a way. -/
def Combines (row : Row) (combine : List Truth → Truth) (filter : Filter) (parts : List Filter) :
    Prop :=
  filter.evaluate row = parts.mapM (evaluate row) >>= fun truths => pure (combine truths)

theorem evaluateAll_eq_mapM (row : Row) (parts : List Filter) :
    evaluateAll row parts = parts.mapM (evaluate row) := by
  induction parts with
  | nil => rfl
  | cons part rest inductionHypothesis =>
    rw [evaluateAll, List.mapM_cons, inductionHypothesis]

theorem combines_all (row : Row) (parts : List Filter) :
    Combines row Truth.conjunction (all parts) parts := by
  rw [Combines, evaluate, evaluateAll_eq_mapM]

theorem combines_any (row : Row) (parts : List Filter) :
    Combines row Truth.disjunction (any parts) parts := by
  rw [Combines, evaluate, evaluateAll_eq_mapM]

theorem Combines.eq_ok {filter : Filter} {parts : List Filter} {truth : Truth}
    (combines : Combines row combine filter parts) :
    filter.evaluate row = .ok truth ↔
      ∃ truths, List.Forall₂ (fun part truth => part.evaluate row = .ok truth) parts truths ∧
        combine truths = truth := by
  rw [combines, bind_eq_ok]
  simp only [mapM_eq_ok, pure_eq_ok, Except.ok.injEq]

/-- Evaluations that have the same results fail in the same cases. -/
theorem sameTruth_of_ok {left right : Filter}
    (same : ∀ truth, left.evaluate row = .ok truth ↔ right.evaluate row = .ok truth) :
    SameTruth row left right := by
  refine ⟨same, ?_⟩
  cases leftRead : left.evaluate row with
  | ok truth => rw [(same truth).mp leftRead]
  | error error =>
    cases rightRead : right.evaluate row with
    | ok truth => exact absurd (leftRead.symm.trans ((same truth).mpr rightRead)) nofun
    | error other => exact iff_of_true ⟨error, rfl⟩ ⟨other, rfl⟩

theorem Combines.reordered {left right : Filter} {parts others : List Filter}
    (leftCombines : Combines row combine left parts)
    (rightCombines : Combines row combine right others)
    (associates : Truth.Associates combine) (permuted : parts.Perm others) :
    SameTruth row left right := by
  have carried {left right : Filter} {parts others : List Filter}
      (leftCombines : Combines row combine left parts)
      (rightCombines : Combines row combine right others) (permuted : parts.Perm others)
      {truth : Truth} (read : left.evaluate row = .ok truth) : right.evaluate row = .ok truth := by
    obtain ⟨truths, found, rfl⟩ := leftCombines.eq_ok.mp read
    obtain ⟨reordered, foundThere, same⟩ := List.perm_comp_forall₂ permuted.symm found
    exact rightCombines.eq_ok.mpr ⟨reordered, foundThere, associates.reordered same⟩
  exact sameTruth_of_ok fun truth => ⟨carried leftCombines rightCombines permuted,
    carried rightCombines leftCombines permuted.symm⟩

/-- Parts that are put together by a filter of their own may as well stand in its place, also where
one of them fails: the first failure is the same. -/
theorem Combines.flattened {left right middle : Filter} {before inner after : List Filter}
    (leftCombines : Combines row combine left (before ++ middle :: after))
    (middleCombines : Combines row combine middle inner)
    (rightCombines : Combines row combine right (before ++ inner ++ after))
    (associates : Truth.Associates combine) :
    left.evaluate row = right.evaluate row := by
  rw [leftCombines, rightCombines, List.mapM_append, List.mapM_append, List.mapM_append,
    List.mapM_cons, middleCombines]
  cases before.mapM (evaluate row) with
  | error error => rfl
  | ok first =>
    cases inner.mapM (evaluate row) with
    | error error => rfl
    | ok second =>
      cases after.mapM (evaluate row) with
      | error error => rfl
      | ok third => exact congrArg Except.ok (associates.flattened first second third)

/-- The truths of the opposites of some filters are the opposites of their truths. -/
theorem mapM_map_not (row : Row) (parts : List Filter) :
    (parts.map not).mapM (evaluate row) =
      parts.mapM (evaluate row) >>= fun truths => pure (truths.map Truth.negation) := by
  induction parts with
  | nil => rfl
  | cons part rest inductionHypothesis =>
    rw [List.map_cons, List.mapM_cons, List.mapM_cons, inductionHypothesis, evaluate]
    cases part.evaluate row with
    | error error => rfl
    | ok truth => cases rest.mapM (evaluate row) <;> rfl

/-- The opposite of a combination is the dual combination of the opposites. -/
theorem Combines.negated {dual : List Truth → Truth} {left right : Filter} {parts : List Filter}
    (leftCombines : Combines row combine left parts)
    (rightCombines : Combines row dual right (parts.map not))
    (opposite : ∀ truths, (combine truths).negation = dual (truths.map Truth.negation)) :
    (not left).evaluate row = right.evaluate row := by
  rw [evaluate, leftCombines, rightCombines, mapM_map_not]
  cases parts.mapM (evaluate row) with
  | error error => rfl
  | ok truths => exact congrArg Except.ok (opposite truths)

theorem evaluate_not_not (row : Row) (part : Filter) :
    (not (not part)).evaluate row = part.evaluate row := by
  rw [evaluate, evaluate]
  cases part.evaluate row with
  | error error => rfl
  | ok truth => exact congrArg Except.ok truth.negation_negation

/-- Conjunctions and disjunctions do not depend on the order of their parts, but for the error with
which they fail. With the same results, errors included, combinations of one sort inside each other
are one combination, negation turns conjunctions and disjunctions into each other, and a second
negation takes back the first. -/
theorem evaluate_boolean_laws (row : Row) :
    (∀ parts others : List Filter, parts.Perm others →
      SameTruth row (all parts) (all others) ∧ SameTruth row (any parts) (any others)) ∧
    (∀ before inner after : List Filter,
      (all (before ++ all inner :: after)).evaluate row =
          (all (before ++ inner ++ after)).evaluate row ∧
        (any (before ++ any inner :: after)).evaluate row =
          (any (before ++ inner ++ after)).evaluate row) ∧
    (∀ parts : List Filter,
      (not (all parts)).evaluate row = (any (parts.map not)).evaluate row ∧
        (not (any parts)).evaluate row = (all (parts.map not)).evaluate row) ∧
    ∀ part : Filter, (not (not part)).evaluate row = part.evaluate row := by
  refine ⟨fun parts others permuted => ⟨?_, ?_⟩, fun before inner after => ⟨?_, ?_⟩,
    fun parts => ⟨?_, ?_⟩, evaluate_not_not row⟩
  · exact (combines_all row parts).reordered (combines_all row others)
      Truth.associates_conjunction permuted
  · exact (combines_any row parts).reordered (combines_any row others)
      Truth.associates_disjunction permuted
  · exact (combines_all row _).flattened (combines_all row inner) (combines_all row _)
      Truth.associates_conjunction
  · exact (combines_any row _).flattened (combines_any row inner) (combines_any row _)
      Truth.associates_disjunction
  · exact (combines_all row parts).negated (combines_any row _) Truth.negation_conjunction
  · exact (combines_any row parts).negated (combines_all row _) Truth.negation_disjunction

/-- A part that cannot be evaluated fails behind one that never holds as well as before it. -/
theorem boolean_laws_of_unreadable :
    let row : Row := ⟨.record [("Count", .text "many")], []⟩
    let count : Access := ⟨"Count", .integer, .cast (.jsonText ["Count"]) .bigint, .bigint⟩
    let unreadable : Filter := .compare count .eq ⟨.int 1, .bigint⟩
    SameTruth row (all [never, unreadable]) (all [unreadable, never]) ∧
      ∃ error, (all [never, unreadable]).evaluate row = .error error := by
  intro row count unreadable
  exact ⟨((evaluate_boolean_laws row).1 _ _ (.swap unreadable never [])).1, _, rfl⟩

end Filter

end Sieve
