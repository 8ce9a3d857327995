/-
This file proves that where fields are stored matters for compiling in one way only. The
compiler fails on a leaf just where the check against the kinds of its fields does, and
with the same error, except that it also turns down an order that is asked of integers in
a column of texts. So two catalogs that keep the same fields in different places compile
the same predicates and fail with the same errors, up to that one error.
-/

import Sieve.Proofs.Filter.Decomposition
import Sieve.Proofs.Predicate.Check

namespace Sieve

open Outcome

/-! ### The verdict on a leaf -/

namespace Catalog

/-- The kind of the field of a type at a path. -/
def kindAt (catalog : Catalog) (typeName path : String) : Except Rejection Kind :=
  (catalog.resolve typeName path).map Field.kind

/-- The verdict on literals that are compared with the field at a path by an operator. -/
def verdictOnField (catalog : Catalog) (typeName path : String) (operator : Operator)
    (literals : List Literal) : Except Rejection Unit := do
  let access ← catalog.literalAccess typeName path operator
  literals.forM fun literal => Outcome.verdict (access.bind literal)

variable {catalog : Catalog} {typeName path : String} {operator : Operator}

theorem storable_of_resolve {field : Field} (resolved : catalog.resolve typeName path = .ok field) :
    field.Storable := by
  obtain ⟨documentType, described, found⟩ := resolve_eq_ok.mp resolved
  exact (valid_of_describe described).fields.storable field (DocumentType.mem_of_field? found).1

/-- The verdict on a field is that of the check against its kind, unless an order is asked of
integers in a column of texts. -/
theorem verdictOnField_cases (path : String) (operator : Operator) (literals : List Literal) :
    (∃ field, catalog.resolve typeName path = .ok field ∧ operator.operatorClass = .ordering ∧
        field.kind = .integer ∧ ∃ column, field.storage = .duplicated column .text ∧
          catalog.verdictOnField typeName path operator literals =
            .error (.ofOrder path column operator)) ∨
      (∀ field, catalog.resolve typeName path = .ok field →
          ¬(operator.operatorClass = .ordering ∧ field.SpellsIntegers)) ∧
        catalog.verdictOnField typeName path operator literals =
          Predicate.checkField (catalog.kindAt typeName) path operator literals := by
  unfold verdictOnField literalAccess Predicate.checkField Predicate.supportingKind kindAt
  cases resolved : catalog.resolve typeName path with
  | error rejection => exact .inr ⟨fun field found => absurd found (by simp), rfl⟩
  | ok field =>
    have storable := storable_of_resolve resolved
    have samePath : field.path = path := path_of_resolve resolved
    rcases field.literalAccess_cases storable operator with
      ⟨ordering, integers, column, stored, failed⟩ | ⟨fine, read⟩
    · refine .inl ⟨field, rfl, ordering, integers, column, stored, ?_⟩
      rw [ok_bind, failed, samePath]
      rfl
    · refine .inr ⟨fun other same => Except.ok.inj same ▸ fine, ?_⟩
      have bound (literal : Literal) : Outcome.verdict (field.access.bind literal) =
          field.kind.checkLiteral path literal := by
        have kept : field.access.kind.canStoreIn field.access.type = true := by
          rw [Field.access_kind]
          exact Field.canStoreIn_access_type storable
        rw [Access.verdict_bind literal kept, Field.access_kind, Field.access_path, samePath]
      show (field.literalAccess operator >>= fun access =>
          literals.forM fun literal => Outcome.verdict (access.bind literal)) =
        ((if field.kind.supports operator.operatorClass then .ok field.kind
          else .error (.unsupported (.undefined path operator field.kind))) >>= fun kind =>
            literals.forM (kind.checkLiteral path))
      rw [read, samePath]
      split
      · rw [ok_bind, ok_bind]
        exact forM_congr fun literal _ => bound literal
      · rfl

theorem verdict_bind_null {access : Access} {literal : Literal} (absent : literal.isNull = true) :
    Outcome.verdict (access.bind literal) = .ok () := by
  rw [Access.bind, if_pos absent]
  rfl

theorem verdict_compileComparison (path : String) (comparison : Comparison) (value : Literal) :
    Outcome.verdict (catalog.compileComparison typeName path comparison value) =
      catalog.verdictOnField typeName path (value.operator comparison) [value] := by
  have single (access : Access) :
      ([value].forM fun literal => Outcome.verdict (access.bind literal)) =
        Outcome.verdict (access.bind value) := by
    show (Outcome.verdict (access.bind value) >>= fun _ => .ok ()) = _
    cases access.bind value <;> rfl
  unfold compileComparison verdictOnField Literal.operator
  simp only [single]
  by_cases absent : value.isNull = true ∧ comparison.operatorClass = .equality
  · rw [if_pos (by simp [absent]), if_pos absent, verdict_bind]
    simp only [verdict_bind_null absent.1]
    rfl
  · rw [if_neg (by simpa using absent), if_neg absent, verdict_bind]
    simp only [verdict_bind]
    rfl

theorem verdict_compileMember (path : String) (values : List Literal) (negated : Bool) :
    Outcome.verdict (catalog.compileMember typeName path values negated) =
      catalog.verdictOnField typeName path .member values := by
  have present (access : Access) :
      ((values.filter fun value => !value.isNull).forM fun literal =>
          Outcome.verdict (access.bind literal)) =
        values.forM fun literal => Outcome.verdict (access.bind literal) := by
    induction values with
    | nil => rfl
    | cons value rest inductionHypothesis =>
      show _ = (Outcome.verdict (access.bind value) >>= fun _ => _)
      rw [← inductionHypothesis]
      cases absent : value.isNull with
      | true => rw [verdict_bind_null absent, List.filter_cons_of_neg (by simp [absent])]; rfl
      | false => rw [List.filter_cons_of_pos (by simp [absent])]; rfl
  unfold compileMember verdictOnField
  rw [verdict_bind]
  refine bind_congr_ok fun access _ => ?_
  rw [← present, ← verdict_mapM, verdict_bind]
  cases (values.filter fun value => !value.isNull).mapM access.bind <;> rfl

theorem verdict_compileBetween (path : String) (low high : Literal) :
    Outcome.verdict (catalog.compileBetween typeName path low high) =
      catalog.verdictOnField typeName path .between [low, high] := by
  unfold compileBetween verdictOnField
  rw [verdict_bind]
  refine bind_congr_ok fun access _ => ?_
  show _ = (Outcome.verdict (access.bind low) >>= fun _ =>
    Outcome.verdict (access.bind high) >>= fun _ => .ok ())
  cases access.bind low with
  | error rejection => rfl
  | ok lowParameter => cases access.bind high <;> rfl

/-- A field is read for another field where its path is declared and its kind supports the
operator; the access is of the kind and of a type that compares like the kind. -/
theorem fieldAccess_cases (path : String) (operator : Operator) :
    (∃ rejection,
        Predicate.supportingKind (catalog.kindAt typeName) path operator = .error rejection ∧
          catalog.fieldAccess typeName path operator = .error rejection) ∨
      ∃ kind access, Predicate.supportingKind (catalog.kindAt typeName) path operator = .ok kind ∧
        catalog.fieldAccess typeName path operator = .ok access ∧ access.kind = kind ∧
          access.type.comparesWith kind.comparisonType = true := by
  unfold fieldAccess Predicate.supportingKind kindAt
  cases resolved : catalog.resolve typeName path with
  | error rejection => exact .inl ⟨rejection, rfl, rfl⟩
  | ok field =>
    have samePath : field.path = path := path_of_resolve resolved
    have read := field.fieldAccess_eq (storable_of_resolve resolved) operator
    rw [samePath] at read
    by_cases supported : field.kind.supports operator.operatorClass = true
    · rw [if_pos supported] at read
      refine .inr ⟨field.kind, _, if_pos supported, read, ?_, Access.comparesWith_broughtTo _ _⟩
      rw [Access.kind_broughtTo, Field.access_kind]
    · rw [if_neg supported] at read
      exact .inl ⟨_, if_neg supported, read⟩

theorem verdict_compileFields (left : String) (comparison : Comparison) (right : String) :
    Outcome.verdict (catalog.compileFields typeName left comparison right) =
      Predicate.checkFields (catalog.kindAt typeName) left comparison right := by
  unfold compileFields Predicate.checkFields
  rcases catalog.fieldAccess_cases left (.compare comparison) with
    ⟨rejection, unsupported, unread⟩ | ⟨leftKind, leftAccess, leftSupports, leftRead, rfl, leftType⟩
  · rw [unsupported, unread]
    rfl
  rcases catalog.fieldAccess_cases right (.compare comparison) with
    ⟨rejection, unsupported, unread⟩ |
      ⟨rightKind, rightAccess, rightSupports, rightRead, rfl, rightType⟩
  · rw [leftSupports, leftRead, unsupported, unread]
    rfl
  have types : leftAccess.type.comparesWith rightAccess.type =
      leftAccess.kind.comparisonType.comparesWith rightAccess.kind.comparisonType := by
    rw [ColumnType.comparesWith_congr leftType, ColumnType.comparesWith_comm,
      ColumnType.comparesWith_congr rightType, ColumnType.comparesWith_comm]
  rw [leftSupports, leftRead, rightSupports, rightRead, ok_bind, ok_bind, ok_bind, ok_bind, types]
  split <;> rfl

/-- Whether a leaf asks for an order of integers that are kept in a column of texts. -/
def Misorders (catalog : Catalog) (typeName : String) (leaf : Predicate) : Prop :=
  ∃ path field column, leaf.AsksOrder path ∧ catalog.resolve typeName path = .ok field ∧
    field.kind = .integer ∧ field.storage = .duplicated column .text

/-- A leaf with one field asks for an order if its operator does. -/
theorem verdict_cases_of_field {leaf : Predicate} {path : String} {operator : Operator}
    {literals : List Literal}
    (same : catalog.verdict typeName leaf = catalog.verdictOnField typeName path operator literals)
    (checked : leaf.checkLeaf (catalog.kindAt typeName) =
      Predicate.checkField (catalog.kindAt typeName) path operator literals)
    (asks : ∀ other, leaf.AsksOrder other ↔ path = other ∧ operator.operatorClass = .ordering) :
    (catalog.Misorders typeName leaf ∧
        ∃ rejection, rejection.IsStorageMismatch ∧
          catalog.verdict typeName leaf = .error rejection) ∨
      ¬catalog.Misorders typeName leaf ∧
        catalog.verdict typeName leaf = leaf.checkLeaf (catalog.kindAt typeName) := by
  rw [same, checked]
  rcases catalog.verdictOnField_cases path operator literals with
    ⟨field, resolved, ordering, integers, column, stored, failed⟩ | ⟨fine, passes⟩
  · exact .inl ⟨⟨path, field, column, (asks path).mpr ⟨rfl, ordering⟩, resolved, integers, stored⟩,
      _, ⟨_, _, _, _, _, rfl⟩, failed⟩
  · refine .inr ⟨?_, passes⟩
    rintro ⟨other, field, column, asked, resolved, integers, stored⟩
    obtain ⟨rfl, ordering⟩ := (asks other).mp asked
    exact fine field resolved ⟨ordering, integers, column, stored⟩

/-- The operator of a comparison with a literal orders where the comparison does. -/
theorem operatorClass_operator (comparison : Comparison) (value : Literal) :
    (value.operator comparison).operatorClass = .ordering ↔
      comparison.operatorClass = .ordering := by
  rw [Literal.operator]
  split
  case isTrue equality =>
    rw [equality.2]
    exact iff_of_false (by decide) (by decide)
  case isFalse => rfl

/-- The verdict on a leaf is that of its check, unless the leaf asks for an order of integers in a
column of texts, which is a mismatch. -/
theorem verdict_leaf_cases {leaf : Predicate} (single : leaf.isLeaf = true) :
    (catalog.Misorders typeName leaf ∧
        ∃ rejection, rejection.IsStorageMismatch ∧
          catalog.verdict typeName leaf = .error rejection) ∨
      ¬catalog.Misorders typeName leaf ∧
        catalog.verdict typeName leaf = leaf.checkLeaf (catalog.kindAt typeName) := by
  -- A comparison of two literals or of two fields asks for no order that a column may not have.
  have ordinary : (∀ path, ¬leaf.AsksOrder path) → ¬catalog.Misorders typeName leaf := by
    rintro asksNone ⟨path, _, _, asked, _⟩
    exact asksNone path asked
  cases leaf with
  | all parts => exact absurd single Bool.false_ne_true
  | any parts => exact absurd single Bool.false_ne_true
  | not part => exact absurd single Bool.false_ne_true
  | compare left comparison right =>
    cases left with
    | field leftPath =>
      cases right with
      | field rightPath =>
        exact .inr ⟨ordinary fun _ => id, verdict_compileFields leftPath comparison rightPath⟩
      | literal value =>
        refine verdict_cases_of_field (verdict_compileComparison leftPath comparison value) rfl ?_
        intro other
        rw [operatorClass_operator]
        exact .rfl
    | literal value =>
      cases right with
      | field rightPath =>
        refine verdict_cases_of_field (verdict_compileComparison rightPath comparison.flip value)
          rfl ?_
        intro other
        rw [operatorClass_operator, Comparison.operatorClass_flip]
        exact .rfl
      | literal other => exact .inr ⟨ordinary fun _ => id, rfl⟩
  | member path values negated =>
    exact verdict_cases_of_field (verdict_compileMember path values negated) rfl
      fun other => iff_of_false id (by simp [Operator.operatorClass])
  | between path low high =>
    exact verdict_cases_of_field (verdict_compileBetween path low high) rfl
      fun other => (and_iff_left rfl).symm
  | isNull path negated =>
    have same : catalog.verdict typeName (.isNull path negated) =
        catalog.verdictOnField typeName path .isNull [] := by
      show Outcome.verdict (catalog.literalAccess typeName path .isNull >>= _) = _
      rw [verdict_bind]
      rfl
    exact verdict_cases_of_field same rfl
      fun other => iff_of_false id (by simp [Operator.operatorClass])
  | text path textMatch value ignoresCase =>
    have same : catalog.verdict typeName (.text path textMatch value ignoresCase) =
        catalog.verdictOnField typeName path (.text textMatch) [] := by
      show Outcome.verdict (catalog.literalAccess typeName path (.text textMatch) >>= _) = _
      rw [verdict_bind]
      rfl
    exact verdict_cases_of_field same rfl
      fun other => iff_of_false id (by simp [Operator.operatorClass])

/-- What is wrong with a path is no mismatch. -/
theorem kindAt_avoids_mismatch (catalog : Catalog) (typeName path : String) :
    Avoids (·.IsStorageMismatch) (catalog.kindAt typeName path) := by
  unfold kindAt resolve
  cases described : catalog.describe typeName with
  | error rejection =>
    unfold describe at described
    split at described
    · exact absurd described (by simp)
    · rw [← Except.error.inj described]
      exact avoids_error nofun
  | ok documentType =>
    cases found : documentType.field? path with
    | none =>
      simp only [found]
      exact avoids_error nofun
    | some field =>
      simp only [found]
      exact avoids_ok _

/-- A leaf fails with a mismatch where it asks for an order of integers that are kept in a column
of texts, and nowhere else. -/
theorem verdict_leaf_isStorageMismatch_iff {leaf : Predicate} (single : leaf.isLeaf = true) :
    (∃ rejection, rejection.IsStorageMismatch ∧ catalog.verdict typeName leaf = .error rejection) ↔
      catalog.Misorders typeName leaf := by
  rcases catalog.verdict_leaf_cases single with ⟨misorders, fails⟩ | ⟨fine, same⟩
  · exact iff_of_true fails misorders
  · refine iff_of_false ?_ fine
    rintro ⟨rejection, mismatch, failed⟩
    exact Predicate.checkLeaf_avoids_mismatch (catalog.kindAt_avoids_mismatch typeName) leaf
      rejection (same.symm.trans failed) mismatch

/-! ### The verdict on a predicate -/

/-- The verdict on a predicate is that of its check, unless it is a mismatch. -/
theorem verdict_eq_check_or (catalog : Catalog) (typeName : String) (predicate : Predicate) :
    catalog.verdict typeName predicate = predicate.check (catalog.kindAt typeName) ∨
      ∃ rejection, rejection.IsStorageMismatch ∧
        catalog.verdict typeName predicate = .error rejection := by
  rw [verdict_eq_forM]
  refine forM_congr_or fun leaf inside => ?_
  rcases catalog.verdict_leaf_cases (Predicate.isLeaf_of_mem_leaves inside) with
    ⟨_, fails⟩ | ⟨_, same⟩
  · exact .inr fails
  · exact .inl same

/-- Two descriptions of a type with the same kinds at the same paths are checked against the same
kinds. -/
theorem kindAt_congr {left right : Catalog} {typeName : String} {leftType rightType : DocumentType}
    (leftDescribed : left.describe typeName = .ok leftType)
    (rightDescribed : right.describe typeName = .ok rightType)
    (sameKinds : leftType.kind? = rightType.kind?) :
    left.kindAt typeName = right.kindAt typeName := by
  have known {catalog : Catalog} {documentType : DocumentType}
      (described : catalog.describe typeName = .ok documentType) (path : String) :
      catalog.kindAt typeName path =
        (documentType.kind? path).elim (.error (.unknownField typeName path)) .ok := by
    unfold kindAt resolve DocumentType.kind?
    rw [described]
    cases found : documentType.field? path <;> simp [found, Except.map]
  funext path
  rw [known leftDescribed, known rightDescribed, sameKinds]

/-- Where fields are stored matters for compiling in one way. Two catalogs whose types have the same
kinds at the same paths both compile a predicate, or both fail with one error, or one of them fails
with a mismatch of a column. And a catalog fails with a mismatch where the first leaf that is not
compiled asks for an order between literals and a field of integers kept in a column of texts, and
nowhere else. -/
theorem compile_agrees_but_for_order :
    (∀ (left right : Catalog) (typeName : String) (leftType rightType : DocumentType)
        (predicate : Predicate),
      left.describe typeName = .ok leftType → right.describe typeName = .ok rightType →
      leftType.kind? = rightType.kind? →
      ((∃ filter, left.compile typeName predicate = .ok filter) ∧
          ∃ filter, right.compile typeName predicate = .ok filter) ∨
        (∃ rejection, left.compile typeName predicate = .error rejection ∧
          right.compile typeName predicate = .error rejection) ∨
        ∃ rejection, rejection.IsStorageMismatch ∧
          (left.compile typeName predicate = .error rejection ∨
            right.compile typeName predicate = .error rejection)) ∧
    ∀ (catalog : Catalog) (typeName : String) (predicate : Predicate),
      (∃ rejection, rejection.IsStorageMismatch ∧
          catalog.compile typeName predicate = .error rejection) ↔
        ∃ before leaf after, predicate.leaves = before ++ leaf :: after ∧
          (∀ earlier ∈ before, ∃ filter, catalog.compile typeName earlier = .ok filter) ∧
          (∃ rejection, catalog.compile typeName leaf = .error rejection) ∧
          ∃ path field column, leaf.AsksOrder path ∧ catalog.resolve typeName path = .ok field ∧
            field.kind = .integer ∧ field.storage = .duplicated column .text := by
  constructor
  · intro left right typeName leftType rightType predicate leftDescribed rightDescribed sameKinds
    rcases verdict_eq_check_or left typeName predicate with leftSame | ⟨rejection, mismatch, failed⟩
    · rcases verdict_eq_check_or right typeName predicate with
        rightSame | ⟨rejection, mismatch, failed⟩
      · have same : left.verdict typeName predicate = right.verdict typeName predicate := by
          rw [leftSame, rightSame, kindAt_congr leftDescribed rightDescribed sameKinds]
        cases passes : left.verdict typeName predicate with
        | ok =>
          exact .inl ⟨verdict_eq_ok.mp passes, verdict_eq_ok.mp (same.symm.trans passes)⟩
        | error rejection =>
          exact .inr (.inl ⟨rejection, verdict_eq_error.mp passes,
            verdict_eq_error.mp (same.symm.trans passes)⟩)
      · exact .inr (.inr ⟨rejection, mismatch, .inr (verdict_eq_error.mp failed)⟩)
    · exact .inr (.inr ⟨rejection, mismatch, .inl (verdict_eq_error.mp failed)⟩)
  · intro catalog typeName predicate
    constructor
    · rintro ⟨rejection, mismatch, failed⟩
      obtain ⟨before, leaf, after, split, earlier, fails⟩ := compile_eq_error.mp failed
      have inside : leaf ∈ predicate.leaves :=
        split ▸ List.mem_append_right before List.mem_cons_self
      have single := Predicate.isLeaf_of_mem_leaves inside
      exact ⟨before, leaf, after, split, earlier, ⟨rejection, fails⟩,
        (verdict_leaf_isStorageMismatch_iff single).mp
          ⟨rejection, mismatch, verdict_eq_error.mpr fails⟩⟩
    · rintro ⟨before, leaf, after, split, earlier, _, misorders⟩
      have inside : leaf ∈ predicate.leaves :=
        split ▸ List.mem_append_right before List.mem_cons_self
      have single := Predicate.isLeaf_of_mem_leaves inside
      obtain ⟨rejection, mismatch, fails⟩ :=
        (verdict_leaf_isStorageMismatch_iff single).mpr misorders
      exact ⟨rejection, mismatch,
        compile_eq_error.mpr ⟨before, leaf, after, split, earlier, verdict_eq_error.mp fails⟩⟩

end Catalog

/-! ### Counters -/

/-- A type of counters, whose counts are stored in a given way. -/
def DocumentType.counter (storage : Storage) : DocumentType :=
  ⟨"Counter", "counters", "Id", [⟨"Id", .string, .extracted⟩, ⟨"Count", .integer, storage⟩]⟩

/-- A catalog of counters alone. -/
def Catalog.counters (storage : Storage)
    (checked : (DocumentType.counter storage).check = .ok ()) : Catalog where
  types := [.counter storage]
  checked := List.forall_mem_singleton.mpr checked
  distinct := List.pairwise_singleton _ _

/-- A range of counts is not looked for in a column of texts, and this is the only way in which
the column changes what is compiled. -/
theorem Catalog.compile_counters_agrees_but_for_order :
    ((Catalog.counters .extracted rfl).describe "Counter" = .ok (.counter .extracted) ∧
        (Catalog.counters (.duplicated "count" .text) rfl).describe "Counter" =
          .ok (.counter (.duplicated "count" .text)) ∧
        (DocumentType.counter .extracted).kind? =
          (DocumentType.counter (.duplicated "count" .text)).kind?) ∧
      (((∃ filter, (Catalog.counters .extracted rfl).compile "Counter"
            (.all [.isNull "Id" true, .between "Count" (.int 1) (.int 9)]) = .ok filter) ∧
          ∃ filter, (Catalog.counters (.duplicated "count" .text) rfl).compile "Counter"
            (.all [.isNull "Id" true, .between "Count" (.int 1) (.int 9)]) = .ok filter) ∨
        (∃ rejection, (Catalog.counters .extracted rfl).compile "Counter"
            (.all [.isNull "Id" true, .between "Count" (.int 1) (.int 9)]) = .error rejection ∧
          (Catalog.counters (.duplicated "count" .text) rfl).compile "Counter"
            (.all [.isNull "Id" true, .between "Count" (.int 1) (.int 9)]) = .error rejection) ∨
        ∃ rejection, rejection.IsStorageMismatch ∧
          ((Catalog.counters .extracted rfl).compile "Counter"
              (.all [.isNull "Id" true, .between "Count" (.int 1) (.int 9)]) = .error rejection ∨
            (Catalog.counters (.duplicated "count" .text) rfl).compile "Counter"
              (.all [.isNull "Id" true, .between "Count" (.int 1) (.int 9)]) =
                .error rejection)) ∧
      ∃ rejection, rejection.IsStorageMismatch ∧
        (Catalog.counters (.duplicated "count" .text) rfl).compile "Counter"
          (.all [.isNull "Id" true, .between "Count" (.int 1) (.int 9)]) = .error rejection := by
  have sameKinds : (DocumentType.counter .extracted).kind? =
      (DocumentType.counter (.duplicated "count" .text)).kind? := by
    funext path
    simp only [DocumentType.kind?, DocumentType.field?, DocumentType.counter, List.find?_cons,
      List.find?_nil]
    split
    · rfl
    · split <;> rfl
  refine ⟨⟨rfl, rfl, sameKinds⟩,
    compile_agrees_but_for_order.1 _ _ "Counter" _ _ _ rfl rfl sameKinds,
    (compile_agrees_but_for_order.2 _ _ _).mpr
      ⟨[.isNull "Id" true], .between "Count" (.int 1) (.int 9), [], rfl,
        List.forall_mem_singleton.mpr ⟨_, rfl⟩, ⟨_, rfl⟩,
        "Count", ⟨"Count", .integer, .duplicated "count" .text⟩, "count", rfl, rfl, rfl, rfl⟩⟩

end Sieve
