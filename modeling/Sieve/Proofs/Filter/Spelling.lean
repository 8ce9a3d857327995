/-
This file proves that filters see the values of a document and not their spellings.
Two stored documents may write the fields of their type differently: identifiers in
capitals, integers with zeros in front, truth values by their first letters, instants
with other fractions. As long as the texts of every field mean one value, whatever a
predicate is compiled to has a truth on both rows, and the same one. The meaning of a
predicate is followed for both documents at once, and a leaf sees a value only through
its comparisons, through the texts it may be and through being null or not.
-/

import Sieve.Proofs.Filter.Bare
import Sieve.Proofs.Filter.Decomposition
import Sieve.Proofs.Filter.Independence

namespace Sieve

open Outcome

/-! ### Values that are one to filters -/

namespace Datum

/-- Whether two values are the same: they are equal, or both are numbers that are no number. -/
def Same (left right : Datum) : Prop :=
  left.Equal right ∨ left.isNaN = true ∧ right.isNaN = true

theorem Same.refl (value : Datum) : value.Same value :=
  .inl (.inl rfl)

theorem compare?_of_isNaN {value : Datum} (none : value.isNaN = true) (other : Datum) :
    other.compare? value = .none := by
  cases value with
  | float number =>
    have unordered (left : Double) : left.compare? number = .none :=
      (doubleCompare_eq_none_iff left number).mpr (.inr none)
    cases other with
    | int value => exact unordered _
    | float value => exact unordered _
    | _ => rfl
  | _ => exact absurd none Bool.false_ne_true

variable {left right : Datum}

/-- Values that are the same are one value, or both are double precision numbers. -/
theorem Same.eq_or_floats (same : left.Same right) :
    left = right ∨
      ∃ leftNumber rightNumber, left = float leftNumber ∧ right = float rightNumber := by
  rcases same with (equal | ⟨leftNumber, rightNumber, rfl, rfl, _⟩) | ⟨leftNone, rightNone⟩
  · exact .inl equal
  · exact .inr ⟨leftNumber, rightNumber, rfl, rfl⟩
  · cases left <;> cases right <;> first
      | exact .inr ⟨_, _, rfl, rfl⟩
      | exact absurd leftNone Bool.false_ne_true
      | exact absurd rightNone Bool.false_ne_true

theorem Same.compare?_eq (same : left.Same right) (other : Datum) :
    other.compare? left = other.compare? right := by
  rcases same with equal | ⟨leftNone, rightNone⟩
  · rw [← compare?_withOneZero other left, equal.withOneZero_eq, compare?_withOneZero]
  · rw [compare?_of_isNaN leftNone, compare?_of_isNaN rightNone]

theorem Same.isNull_eq (same : left.Same right) : left.isNull = right.isNull := by
  rcases same.eq_or_floats with rfl | ⟨_, _, rfl, rfl⟩ <;> rfl

theorem Same.like_eq (same : left.Same right) (pattern : Datum) (ignoresCase : Bool) :
    left.like pattern ignoresCase = right.like pattern ignoresCase := by
  rcases same.eq_or_floats with rfl | ⟨_, _, rfl, rfl⟩ <;> rfl

/-- Whatever a column keeps of values that are the same is the same. -/
theorem Same.keptAs (same : left.Same right) (type : ColumnType) :
    (left.keptAs type).Same (right.keptAs type) := by
  have kept (number : Double) : (float number).keptAs type = float number := by
    cases type <;> rfl
  rcases same.eq_or_floats with rfl | ⟨_, _, rfl, rfl⟩
  · exact .refl _
  · rw [kept, kept]
    exact same

end Datum

/-- A comparison does not tell values apart that are the same, on either side. -/
theorem Comparison.truth_congr {left right otherLeft otherRight : Datum}
    (comparison : Comparison) (sameLeft : left.Same otherLeft) (sameRight : right.Same otherRight) :
    comparison.truth left right = comparison.truth otherLeft otherRight := by
  rw [← truth_flip comparison left right, truth, sameLeft.compare?_eq, ← truth, truth_flip, truth,
    sameRight.compare?_eq, ← truth]

theorem Literal.comparedBy_congr {left right : Datum} (literal : Literal)
    (comparison : Comparison) (kind : Kind) (same : left.Same right) :
    literal.comparedBy comparison kind left = literal.comparedBy comparison kind right := by
  unfold comparedBy
  rw [same.isNull_eq, comparison.truth_congr same (.refl _)]

/-! ### Documents with the same values -/

/-- Whether two documents have, for a field, texts that mean one value of its kind. The instants of
a field that is always written in UTC are written so. -/
structure Field.SameValue (field : Field) (left right : Json) : Prop where
  /-- The first document writes its instants in UTC. -/
  leftUtc : field.InUtc left
  /-- The second document writes its instants in UTC. -/
  rightUtc : field.InUtc right
  /-- Both texts are read, and as the same value. -/
  read : ∃ leftValue rightValue, field.value left = .ok leftValue ∧
    field.value right = .ok rightValue ∧ leftValue.Same rightValue

namespace Predicate

/-- Whether two documents have the same values, given the kinds at paths. -/
def SameValues (kind? : String → Option Kind) (left right : Json) : Prop :=
  ∀ path kind, kind? path = some kind → ∃ leftValue rightValue,
    valueAt kind left path = .ok leftValue ∧ valueAt kind right path = .ok rightValue ∧
      leftValue.Same rightValue

section

variable {kind? : String → Option Kind} {left right : Json} (same : SameValues kind? left right)

include same

theorem judged_of_sameValues (path : String) {judgement : Kind → Datum → Truth}
    (blind : ∀ kind leftValue rightValue, leftValue.Same rightValue →
      judgement kind leftValue = judgement kind rightValue) :
    ∃ truth, judged kind? left path judgement = .ok truth ∧
      judged kind? right path judgement = .ok truth := by
  unfold judged
  cases found : kind? path with
  | none => exact ⟨none, rfl, rfl⟩
  | some kind =>
    obtain ⟨leftValue, rightValue, leftRead, rightRead, alike⟩ := same path kind found
    refine ⟨judgement kind leftValue, ?_, ?_⟩
    · simp only [leftRead]
      rfl
    · simp only [rightRead]
      exact congrArg Except.ok (blind kind _ _ alike).symm

theorem brought_of_sameValues (path : String) :
    ∃ leftValue rightValue, brought kind? left path = .ok leftValue ∧
      brought kind? right path = .ok rightValue ∧ leftValue.Same rightValue := by
  unfold brought
  cases found : kind? path with
  | none => exact ⟨.null, .null, rfl, rfl, .refl _⟩
  | some kind =>
    obtain ⟨leftValue, rightValue, leftRead, rightRead, alike⟩ := same path kind found
    refine ⟨_, _, ?_, ?_, alike.keptAs kind.comparisonType⟩
    · simp only [leftRead]
      rfl
    · simp only [rightRead]
      rfl

/-- A comparison with a literal has one truth for both documents, on whichever side the literal
stands. -/
theorem judged_comparedBy_of_sameValues (path : String) (comparison : Comparison)
    (literal : Literal) :
    ∃ truth,
      (judged kind? left path fun kind value => literal.comparedBy comparison kind value) =
          .ok truth ∧
        (judged kind? right path fun kind value => literal.comparedBy comparison kind value) =
          .ok truth :=
  judged_of_sameValues same path fun kind _ _ alike =>
    literal.comparedBy_congr comparison kind alike

theorem meaning_member_of_sameValues (path : String) (literals : List Literal) (negated : Bool) :
    ∃ truth, (member path literals negated).meaning kind? left = .ok truth ∧
      (member path literals negated).meaning kind? right = .ok truth := by
  by_cases none : literals = []
  · refine ⟨some negated, ?_, ?_⟩ <;> rw [meaning, if_pos none]
  · simp only [meaning, if_neg none]
    refine judged_of_sameValues same path fun kind leftValue rightValue alike => ?_
    have each : (literals.map fun literal => literal.comparedBy .eq kind leftValue) =
        literals.map fun literal => literal.comparedBy .eq kind rightValue :=
      List.map_congr_left fun literal _ => literal.comparedBy_congr .eq kind alike
    rw [each]

end

mutual

/-- A predicate means one truth of two documents with the same values, and is never stuck. -/
theorem meaning_of_sameValues {kind? : String → Option Kind} {left right : Json}
    (same : SameValues kind? left right) (predicate : Predicate) :
    ∃ truth, predicate.meaning kind? left = .ok truth ∧
      predicate.meaning kind? right = .ok truth := by
  cases predicate with
  | all parts =>
    obtain ⟨truths, leftMeans, rightMeans⟩ := meaningsOfAll_of_sameValues same parts
    refine ⟨Truth.conjunction truths, ?_, ?_⟩
    · rw [meaning, leftMeans, ok_bind, pure_eq_ok]
    · rw [meaning, rightMeans, ok_bind, pure_eq_ok]
  | any parts =>
    obtain ⟨truths, leftMeans, rightMeans⟩ := meaningsOfAll_of_sameValues same parts
    refine ⟨Truth.disjunction truths, ?_, ?_⟩
    · rw [meaning, leftMeans, ok_bind, pure_eq_ok]
    · rw [meaning, rightMeans, ok_bind, pure_eq_ok]
  | not part =>
    obtain ⟨truth, leftMeans, rightMeans⟩ := meaning_of_sameValues same part
    refine ⟨truth.negation, ?_, ?_⟩
    · rw [meaning, leftMeans, ok_bind, pure_eq_ok]
    · rw [meaning, rightMeans, ok_bind, pure_eq_ok]
  | compare leftOperand comparison rightOperand =>
    cases leftOperand with
    | field leftPath =>
      cases rightOperand with
      | field rightPath =>
        obtain ⟨first, otherFirst, firstRead, otherFirstRead, sameFirst⟩ :=
          brought_of_sameValues same leftPath
        obtain ⟨second, otherSecond, secondRead, otherSecondRead, sameSecond⟩ :=
          brought_of_sameValues same rightPath
        refine ⟨comparison.truth first second, ?_, ?_⟩
        · rw [meaning, firstRead, secondRead, ok_bind, ok_bind, pure_eq_ok]
        · rw [meaning, otherFirstRead, otherSecondRead, ok_bind, ok_bind, pure_eq_ok,
            comparison.truth_congr sameFirst sameSecond]
      | literal value =>
        simp only [meaning]
        exact judged_comparedBy_of_sameValues same leftPath comparison value
    | literal value =>
      cases rightOperand with
      | field rightPath =>
        simp only [meaning]
        exact judged_comparedBy_of_sameValues same rightPath comparison.flip value
      | literal other =>
        simp only [meaning]
        exact ⟨none, rfl, rfl⟩
  | member path literals negated => exact meaning_member_of_sameValues same path literals negated
  | between path low high =>
    simp only [meaning]
    refine judged_of_sameValues same path fun kind _ _ alike => ?_
    rw [low.comparedBy_congr .ge kind alike, high.comparedBy_congr .le kind alike]
  | isNull path negated =>
    simp only [meaning]
    refine judged_of_sameValues same path fun _ _ _ alike => ?_
    rw [alike.isNull_eq]
  | text path textMatch pattern ignoresCase =>
    simp only [meaning]
    exact judged_of_sameValues same path fun _ _ _ alike => alike.like_eq _ ignoresCase

theorem meaningsOfAll_of_sameValues {kind? : String → Option Kind} {left right : Json}
    (same : SameValues kind? left right) (parts : List Predicate) :
    ∃ truths, meaningsOfAll kind? left parts = .ok truths ∧
      meaningsOfAll kind? right parts = .ok truths := by
  cases parts with
  | nil => exact ⟨[], rfl, rfl⟩
  | cons part rest =>
    obtain ⟨truth, leftMeans, rightMeans⟩ := meaning_of_sameValues same part
    obtain ⟨truths, leftBelow, rightBelow⟩ := meaningsOfAll_of_sameValues same rest
    refine ⟨truth :: truths, ?_, ?_⟩
    · rw [meaningsOfAll, leftMeans, leftBelow, ok_bind, ok_bind, pure_eq_ok]
    · rw [meaningsOfAll, rightMeans, rightBelow, ok_bind, ok_bind, pure_eq_ok]

end

/-- Documents whose fields have the same values have the same values at all paths. -/
theorem sameValues_of_fields {documentType : DocumentType} {left right : Json}
    (same : ∀ field ∈ documentType.fields, field.SameValue left right) :
    SameValues documentType.kind? left right := by
  intro path kind found
  obtain ⟨field, declared, rfl⟩ := Option.map_eq_some_iff.mp found
  rw [valueAt_of_field? declared, valueAt_of_field? declared]
  exact (same field (DocumentType.mem_of_field? declared).1).read

end Predicate

/-! ### Stored documents -/

namespace Store

/-- The spelling of values does not matter. Let two documents be stored for a type, in one store or
in two with one catalog, and let every field of the type have the same value in both. Then whatever
a predicate is compiled to is evaluated on both rows without an error, and to one truth. -/
theorem evaluate_put_of_sameValues {left right leftNext rightNext : Store} {typeName : String}
    {leftBody rightBody : Json} {leftFresh rightFresh : Uuid}
    {leftDocument rightDocument : Document} {documentType : DocumentType}
    {predicate : Predicate} {filter : Filter}
    (sameCatalog : left.planner.catalog = right.planner.catalog)
    (described : left.planner.catalog.describe typeName = .ok documentType)
    (leftStored : left.put typeName leftBody leftFresh = (.ok leftDocument, leftNext))
    (rightStored : right.put typeName rightBody rightFresh = (.ok rightDocument, rightNext))
    (same : ∀ field ∈ documentType.fields, field.SameValue leftDocument.body rightDocument.body)
    (compiled : left.planner.catalog.compile typeName predicate = .ok filter) :
    ∃ truth, filter.evaluate leftDocument.row = .ok truth ∧
      filter.evaluate rightDocument.row = .ok truth := by
  have valid := Catalog.valid_of_describe described
  obtain ⟨_, leftDescribed, _, leftStores, _⟩ := prepare_sound (put_eq_ok leftStored).1
  obtain ⟨_, rightDescribed, _, rightStores, _⟩ := prepare_sound (put_eq_ok rightStored).1
  rw [← sameCatalog] at rightDescribed
  obtain rfl := Except.ok.inj (described.symm.trans leftDescribed)
  obtain rfl := Except.ok.inj (described.symm.trans rightDescribed)
  have leftHolds : ∀ field ∈ documentType.fields,
      field.HeldBy leftDocument.row ∧ field.InUtc leftDocument.row.body :=
    fun field member => ⟨Field.heldBy_of_stores valid leftStores member,
      (same field member).leftUtc⟩
  have rightHolds : ∀ field ∈ documentType.fields,
      field.HeldBy rightDocument.row ∧ field.InUtc rightDocument.row.body :=
    fun field member => ⟨Field.heldBy_of_stores valid rightStores member,
      (same field member).rightUtc⟩
  rw [Catalog.evaluate_compile described leftHolds predicate compiled,
    Catalog.evaluate_compile described rightHolds predicate compiled]
  exact Predicate.meaning_of_sameValues (Predicate.sameValues_of_fields same) predicate

end Store

/-! ### Tasks -/

/-- A type of tasks, which keeps their keys and their counts in columns of texts. -/
def DocumentType.task : DocumentType :=
  ⟨"Task", "tasks", "Id",
    [⟨"Id", .uuid, .duplicated "id" .text⟩, ⟨"Count", .integer, .duplicated "count" .text⟩,
      ⟨"Open", .boolean, .extracted⟩]⟩

/-- A catalog of tasks alone. -/
def Catalog.tasks : Catalog where
  types := [.task]
  checked := List.forall_mem_singleton.mpr (by decide +kernel)
  distinct := List.pairwise_singleton _ _

/-- A task. -/
def Json.task (id : String) (count isOpen : Json) : Json :=
  .record [("Id", .text id), ("Count", count), ("Open", isOpen)]

/-- A task in capitals, with zeros and with a letter for a word, is selected like the same task in
plain spelling. -/
theorem Store.evaluate_put_of_spelled_task :
    ∃ leftDocument rightDocument leftNext rightNext filter,
      (empty ⟨.tasks, .standard⟩).put "Task"
          (.task "6F1C2A7E-9D10-4C1E-8F6A-0C1D2E3F4A5B" (.text "007") (.text "T")) ⟨0⟩ =
        (.ok leftDocument, leftNext) ∧
      (empty ⟨.tasks, .standard⟩).put "Task"
          (.task "6f1c2a7e-9d10-4c1e-8f6a-0c1d2e3f4a5b" (.integer 7) (.bool true)) ⟨0⟩ =
        (.ok rightDocument, rightNext) ∧
      Catalog.tasks.compile "Task"
          (.all [.ofField "Count" .eq (.int 7), .ofFields "Count" .le "Count",
            .member "Open" [.bool true, .null] true]) = .ok filter ∧
      ∃ truth, filter.evaluate leftDocument.row = .ok truth ∧
        filter.evaluate rightDocument.row = .ok truth := by
  obtain ⟨leftDocument, leftNext, leftStored⟩ := exists_put_of_isOk
    (show ((empty ⟨.tasks, .standard⟩).put "Task"
      (.task "6F1C2A7E-9D10-4C1E-8F6A-0C1D2E3F4A5B" (.text "007") (.text "T")) ⟨0⟩).1.isOk = true by
        decide +kernel)
  obtain ⟨rightDocument, rightNext, rightStored⟩ := exists_put_of_isOk
    (show ((empty ⟨.tasks, .standard⟩).put "Task"
      (.task "6f1c2a7e-9d10-4c1e-8f6a-0c1d2e3f4a5b" (.integer 7) (.bool true)) ⟨0⟩).1.isOk = true by
        decide +kernel)
  obtain ⟨filter, compiled⟩ := exists_of_isOk
    (show (Catalog.tasks.compile "Task"
      (.all [.ofField "Count" .eq (.int 7), .ofFields "Count" .le "Count",
        .member "Open" [.bool true, .null] true])).isOk = true by decide +kernel)
  have notUtc (path : String) (kind : Kind) (other : kind ≠ .utc) (storage : Storage)
      (body : Json) : (Field.mk path kind storage).InUtc body := fun zoned => absurd zoned other
  have same : ∀ field ∈ DocumentType.task.fields,
      field.SameValue leftDocument.body rightDocument.body := by
    have keyed (id : String) (count isOpen : Json) : (Json.task id count isOpen).lookup?
        (pointerOfPath DocumentType.task.keyPath) = some (.text id) := by
      rfl
    rw [body_of_put rfl (keyed _ _ _) nofun leftStored,
      body_of_put rfl (keyed _ _ _) nofun rightStored]
    refine List.forall_mem_cons.mpr ⟨?_, List.forall_mem_cons.mpr
      ⟨?_, List.forall_mem_singleton.mpr ?_⟩⟩
    · exact ⟨notUtc _ _ (by decide) _ _, notUtc _ _ (by decide) _ _,
        .uuid ⟨0x6f1c2a7e9d104c1e8f6a0c1d2e3f4a5b⟩, _, by decide +kernel, by decide +kernel,
        .refl _⟩
    · exact ⟨notUtc _ _ (by decide) _ _, notUtc _ _ (by decide) _ _,
        .int 7, _, by decide +kernel, by decide +kernel, .refl _⟩
    · exact ⟨notUtc _ _ (by decide) _ _, notUtc _ _ (by decide) _ _,
        .bool true, _, by decide +kernel, by decide +kernel, .refl _⟩
  exact ⟨leftDocument, rightDocument, leftNext, rightNext, filter, leftStored, rightStored,
    compiled, evaluate_put_of_sameValues rfl rfl leftStored rightStored same compiled⟩

end Sieve
