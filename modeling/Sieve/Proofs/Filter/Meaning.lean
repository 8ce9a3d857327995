/-
This file says what a predicate means of a document without regard to how fields are
stored: the text of a field is cast to the type that its kind reads, and literals are
taken for values of the kind. A filter that has been compiled from the predicate
evaluates to this meaning on a row that holds the fields of its type, whichever of
them have columns of whatever types. Every kind of leaf has a lemma of its own, and
the parts of a filter are put together as those of its predicate are.
-/

import Sieve.Proofs.Filter.Stored

namespace Sieve

open Outcome

/-! ### What a predicate means of a document -/

/-- The kind of the field at a path. -/
def DocumentType.kind? (documentType : DocumentType) (path : String) : Option Kind :=
  (documentType.field? path).map Field.kind

/-- The truth of a comparison of a value of a kind with a literal. Being equal to null means
being null. -/
def Literal.comparedBy (comparison : Comparison) (kind : Kind) (value : Datum)
    (literal : Literal) : Truth :=
  if literal.isNull = true ∧ comparison.operatorClass = .equality then
    some (value.isNull != (comparison == .ne))
  else comparison.truth value ((literal.value? kind).getD .null)

theorem Literal.comparedBy_of_isNull {literal : Literal} (absent : literal.isNull = true)
    (kind : Kind) (value : Datum) : literal.comparedBy .eq kind value = some value.isNull := by
  rw [comparedBy, if_pos ⟨absent, rfl⟩]
  exact congrArg some (Bool.bne_false _)

/-- A truth, or the opposite of it. -/
def Truth.signed (negated : Bool) (truth : Truth) : Truth :=
  if negated then truth.negation else truth

namespace Predicate

/-- The value that a document has for a path, read as a kind. -/
def valueAt (kind : Kind) (body : Json) (path : String) : Except CastError Datum :=
  (Field.mk path kind .extracted).value body

/-- A judgement of the value that a document has for a path, given the kinds at paths; where there
is no kind nothing is known. -/
def judged (kind? : String → Option Kind) (body : Json) (path : String)
    (judgement : Kind → Datum → Truth) : Except CastError Truth :=
  match kind? path with
  | some kind => (valueAt kind body path).map (judgement kind)
  | none => .ok none

/-- The value that a document has for a path, brought to the type in which its kind is
compared. -/
def brought (kind? : String → Option Kind) (body : Json) (path : String) :
    Except CastError Datum :=
  match kind? path with
  | some kind => (valueAt kind body path).map (Datum.keptAs kind.comparisonType)
  | none => .ok .null

mutual

/-- What a predicate means of a document, given the kinds at paths. Nothing is read of a field
that is sought among no literals. -/
def meaning (kind? : String → Option Kind) (body : Json) :
    Predicate → Except CastError Truth
  | all parts => do
    let truths ← meaningsOfAll kind? body parts
    pure (Truth.conjunction truths)
  | any parts => do
    let truths ← meaningsOfAll kind? body parts
    pure (Truth.disjunction truths)
  | not part => do
    let truth ← meaning kind? body part
    pure truth.negation
  | compare (.field path) comparison (.literal literal) =>
    judged kind? body path fun kind value => literal.comparedBy comparison kind value
  | compare (.literal literal) comparison (.field path) =>
    judged kind? body path fun kind value => literal.comparedBy comparison.flip kind value
  | compare (.field left) comparison (.field right) => do
    let leftValue ← brought kind? body left
    let rightValue ← brought kind? body right
    pure (comparison.truth leftValue rightValue)
  | compare (.literal _) _ (.literal _) => .ok none
  | member path literals negated =>
    if literals = [] then .ok (some negated)
    else judged kind? body path fun kind value =>
      Truth.signed negated
        (Truth.disjunction (literals.map fun literal => literal.comparedBy .eq kind value))
  | between path low high =>
    judged kind? body path fun kind value =>
      Truth.conjunction [low.comparedBy .ge kind value, high.comparedBy .le kind value]
  | isNull path negated => judged kind? body path fun _ value => some (value.isNull != negated)
  | text path textMatch pattern ignoresCase =>
    judged kind? body path fun _ value =>
      value.like (.text (String.ofList (Pattern.lookingFor textMatch pattern.toList))) ignoresCase

/-- What predicates mean of a document, in order. -/
def meaningsOfAll (kind? : String → Option Kind) (body : Json) :
    List Predicate → Except CastError (List Truth)
  | [] => pure []
  | part :: rest => do
    let truth ← meaning kind? body part
    let truths ← meaningsOfAll kind? body rest
    pure (truth :: truths)

end

section

variable {documentType : DocumentType} {path : String} {field : Field}
  (found : documentType.field? path = some field) (body : Json)

include found

theorem valueAt_of_field? : valueAt field.kind body path = field.value body := by
  have same : (Field.mk path field.kind .extracted).path = field.path :=
    (DocumentType.mem_of_field? found).2.symm
  exact Field.value_congr same rfl body

theorem judged_of_field? (judgement : Kind → Datum → Truth) :
    judged documentType.kind? body path judgement =
      (field.value body).map (judgement field.kind) := by
  simp only [judged, DocumentType.kind?, found, Option.map_some, valueAt_of_field? found]

theorem brought_of_field? :
    brought documentType.kind? body path =
      (field.value body).map (Datum.keptAs field.kind.comparisonType) := by
  simp only [brought, DocumentType.kind?, found, Option.map_some, valueAt_of_field? found]

end

end Predicate

/-! ### Leaves -/

theorem Comparison.operatorClass_cases (comparison : Comparison) :
    comparison.operatorClass = .equality ∨ comparison.operatorClass = .ordering := by
  cases comparison <;> decide

/-- A comparison with the parameter of a literal is a comparison with the literal, unless it asks
for null. -/
theorem Access.truth_bind {access : Access} {literal : Literal} {parameter : Parameter}
    {comparison : Comparison} {value : Datum}
    (storable : access.kind.canStoreIn access.type = true)
    (bound : access.bind literal = .ok parameter)
    (answered : comparison.operatorClass = .ordering →
      access.type.ordersLike access.kind = true)
    (present : ¬(literal.isNull = true ∧ comparison.operatorClass = .equality))
    (fits : value.fits access.kind.defaultColumnType = true) :
    comparison.truth (value.keptAs access.type) parameter.value =
      literal.comparedBy comparison access.kind value := by
  obtain ⟨meant, means, rfl⟩ := (Access.bind_eq_ok storable).mp bound
  rw [Literal.comparedBy, if_neg present, means, Option.getD_some]
  refine Datum.truth_keptAs storable ?_ fits (Literal.fits_of_value? means)
  exact comparison.operatorClass_cases.imp id answered

namespace Truth

/-- Only what is among some truths matters to whether any of them holds. -/
theorem disjunction_congr {truths others : List Truth}
    (same : ∀ truth, truth ∈ truths ↔ truth ∈ others) :
    disjunction truths = disjunction others := by
  have contains (truth : Truth) : truths.contains truth = others.contains truth := by
    rw [Bool.eq_iff_iff, List.contains_iff_mem, List.contains_iff_mem, same]
  rw [disjunction, disjunction, contains, contains]

/-- Whether any of some truths holds can be asked of them in two parts. -/
theorem disjunction_append (truths others : List Truth) :
    disjunction (truths ++ others) = disjunction [disjunction truths, disjunction others] := by
  have contains (truth : Truth) :
      (truths ++ others).contains truth = (truths.contains truth || others.contains truth) := by
    rw [Bool.eq_iff_iff, Bool.or_eq_true]
    simp
  have two (first second : Bool) (firstUnknown secondUnknown : Bool) :
      (if first || second then some true
        else if firstUnknown || secondUnknown then none else some false) =
      disjunction
        [if first then some true else if firstUnknown then none else some false,
          if second then some true else if secondUnknown then none else some false] := by
    revert first second firstUnknown secondUnknown
    decide
  rw [disjunction, contains, contains, two]
  rfl

theorem disjunction_singleton (truth : Truth) : disjunction [truth] = truth := by
  cases truth with
  | none => rfl
  | some value => cases value <;> rfl

end Truth

/-- Some of what is judged of literals holds if it does of one that is not null, or if null is
judged to hold and is among them. -/
theorem Literal.disjunction_nulls_apart {judgement : Literal → Truth} {absent : Bool}
    (nulls : ∀ literal, literal.isNull = true → judgement literal = some absent)
    (literals : List Literal) :
    Truth.disjunction (((literals.filter fun literal => !literal.isNull).map judgement) ++
        if literals.any isNull then [some absent] else []) =
      Truth.disjunction (literals.map judgement) := by
  refine Truth.disjunction_congr fun truth => ?_
  rw [List.mem_append, List.mem_map, List.mem_map]
  constructor
  · rintro (⟨literal, inside, rfl⟩ | null)
    · exact ⟨literal, (List.mem_filter.mp inside).1, rfl⟩
    · split at null
      · rename_i some
        obtain ⟨literal, inside, missing⟩ := List.any_eq_true.mp some
        rw [List.mem_singleton.mp null]
        exact ⟨literal, inside, nulls literal missing⟩
      · exact absurd null List.not_mem_nil
  · rintro ⟨literal, inside, rfl⟩
    by_cases missing : literal.isNull = true
    · refine .inr ?_
      rw [if_pos (List.any_eq_true.mpr ⟨literal, inside, missing⟩), List.mem_singleton]
      exact nulls literal missing
    · exact .inl ⟨literal, List.mem_filter.mpr ⟨inside, by simpa using missing⟩, rfl⟩

/-- Literals of which none is null and none is not null are no literals. -/
theorem Literal.eq_nil_iff (literals : List Literal) :
    (literals.filter fun literal => !literal.isNull) = [] ∧ literals.any isNull = false ↔
      literals = [] := by
  constructor
  · rintro ⟨absent, present⟩
    refine List.eq_nil_iff_forall_not_mem.mpr fun literal inside => ?_
    have null := List.filter_eq_nil_iff.mp absent literal inside
    exact (List.any_eq_false.mp present literal inside) (by simpa using null)
  · rintro rfl
    exact ⟨rfl, rfl⟩

/-- A field is among parameters, or is null where that is asked for too. Without either nothing is
read. -/
theorem Filter.evaluate_memberFilter (row : Row) (access : Access) (parameters : List Parameter)
    (orNull negated : Bool) :
    (Catalog.memberFilter access parameters orNull negated).evaluate row =
      if parameters = [] ∧ orNull = false then .ok (some negated)
      else access.source.evaluate row >>= fun value =>
        pure (Truth.signed negated
          (Truth.disjunction ((parameters.map fun parameter =>
              Comparison.eq.truth value parameter.value) ++
            if orNull then [some value.isNull] else []))) := by
  cases orNull with
  | false =>
    cases parameters with
    | nil => cases negated <;> rfl
    | cons parameter rest =>
      rw [if_neg (by simp)]
      show (do
        let value ← access.source.evaluate row
        pure (Truth.signed negated (memberTruth value (parameter :: rest)))) = _
      simp [memberTruth]
  | true =>
    rw [if_neg (by simp)]
    have positive (parameters : List Parameter) :
        (if parameters.isEmpty then Filter.isNull access false
          else .any [.member access parameters false, .isNull access false]).evaluate row =
        access.source.evaluate row >>= fun value =>
          pure (Truth.disjunction ((parameters.map fun parameter =>
            Comparison.eq.truth value parameter.value) ++ [some value.isNull])) := by
      cases parameters with
      | nil =>
        show (access.source.evaluate row >>= fun value => pure (some (value.isNull != false))) = _
        simp [Truth.disjunction_singleton]
      | cons parameter rest =>
        simp only [List.isEmpty_cons, Bool.false_eq_true, if_false, evaluate, evaluateAll]
        cases access.source.evaluate row with
        | error error => rfl
        | ok value =>
          simp only [ok_bind, pure_eq_ok]
          rw [Truth.disjunction_append, Truth.disjunction_singleton, memberTruth, Bool.bne_false]
    cases negated with
    | false => exact positive parameters
    | true =>
      show ((if parameters.isEmpty then Filter.isNull access false
          else .any [.member access parameters false, .isNull access false]).evaluate row >>=
        fun truth => pure truth.negation) = _
      rw [positive]
      cases access.source.evaluate row <;> rfl

namespace Catalog

variable {catalog : Catalog} {typeName path : String} {operator : Operator} {access : Access}
  {filter : Filter} {documentType : DocumentType} {row : Row}

/-- What an access compared with literals reads in a row that holds the fields of a type. -/
structure Reaches (documentType : DocumentType) (row : Row) (path : String) (operator : Operator)
    (access : Access) (field : Field) : Prop where
  /-- The field is the one at the path. -/
  found : documentType.field? path = some field
  /-- The row has the column of the field. -/
  held : field.HeldBy row
  /-- Its instants are written in UTC. -/
  utc : field.InUtc row.body
  /-- The field is read as it is stored. -/
  stored : access = field.access
  /-- Its kind supports the operator. -/
  supported : field.kind.supports operator.operatorClass = true
  /-- Its column orders like its kind where an order is asked for. -/
  ordered : operator.operatorClass = .ordering → field.access.type.ordersLike field.kind = true

theorem Reaches.storable {field : Field}
    (reaches : Reaches documentType row path operator access field) :
    access.kind.canStoreIn access.type = true := by
  rw [reaches.stored, Field.access_kind]
  exact Field.canStoreIn_access_type reaches.held.storable

theorem Reaches.truth_bind {field : Field}
    (reaches : Reaches documentType row path operator access field) {literal : Literal}
    {parameter : Parameter} (bound : access.bind literal = .ok parameter) {comparison : Comparison}
    (same : comparison.operatorClass = operator.operatorClass)
    (present : ¬(literal.isNull = true ∧ comparison.operatorClass = .equality)) {value : Datum}
    (fits : value.fits field.kind.defaultColumnType = true) :
    comparison.truth (value.keptAs field.access.type) parameter.value =
      literal.comparedBy comparison field.kind value := by
  have storable := reaches.storable
  have ordered := reaches.ordered
  rw [reaches.stored] at bound storable
  rw [← same, ← field.access_kind] at ordered
  rw [← field.access_kind] at fits ⊢
  exact Access.truth_bind storable bound ordered present fits

/-- A judgement of what an access reads is one of the value of the field, where keeping a value
does not change the judgement. -/
theorem Reaches.bind_evaluate {field : Field}
    (reaches : Reaches documentType row path operator access field) (leaf : Datum → Truth)
    {judgement : Kind → Datum → Truth}
    (same : ∀ value, value.fits field.kind.defaultColumnType = true →
      leaf (value.keptAs field.access.type) = judgement field.kind value) :
    (access.source.evaluate row >>= fun value => pure (leaf value)) =
      Predicate.judged documentType.kind? row.body path judgement := by
  rw [reaches.stored, Predicate.judged_of_field? reaches.found]
  exact Field.bind_evaluate_access reaches.held reaches.utc same

section

variable (described : catalog.describe typeName = .ok documentType)
  (holds : ∀ field ∈ documentType.fields, field.HeldBy row ∧ field.InUtc row.body)

include described holds

theorem reaches_of_literalAccess
    (accessed : catalog.literalAccess typeName path operator = .ok access) :
    ∃ field, Reaches documentType row path operator access field := by
  obtain ⟨field, resolved, read⟩ := literalAccess_eq_ok.mp accessed
  obtain ⟨other, same, found⟩ := resolve_eq_ok.mp resolved
  obtain rfl := Except.ok.inj (described.symm.trans same)
  obtain ⟨held, utc⟩ := holds field (DocumentType.mem_of_field? found).1
  obtain ⟨supported, _, stored⟩ := Field.literalAccess_eq_ok.mp read
  exact ⟨field, found, held, utc, stored, supported, Field.ordersLike_of_literalAccess read⟩

theorem evaluate_isNull {negated : Bool}
    (accessed : catalog.literalAccess typeName path .isNull = .ok access) :
    (Filter.isNull access negated).evaluate row =
      Predicate.judged documentType.kind? row.body path fun _ value =>
        some (value.isNull != negated) := by
  obtain ⟨field, reaches⟩ := reaches_of_literalAccess described holds accessed
  rw [Filter.evaluate]
  exact reaches.bind_evaluate (fun value => some (value.isNull != negated))
    fun value _ => by rw [Datum.isNull_keptAs]

theorem evaluate_compileComparison {comparison : Comparison} {literal : Literal}
    (compiled : catalog.compileComparison typeName path comparison literal = .ok filter) :
    filter.evaluate row =
      Predicate.judged documentType.kind? row.body path fun kind value =>
        literal.comparedBy comparison kind value := by
  rw [compileComparison_eq_ok] at compiled
  split at compiled
  · rename_i absent
    obtain ⟨access, accessed, rfl⟩ := compiled
    rw [evaluate_isNull described holds accessed]
    congr
    funext kind value
    rw [Literal.comparedBy, if_pos absent]
  · rename_i present
    obtain ⟨access, accessed, parameter, bound, rfl⟩ := compiled
    obtain ⟨field, reaches⟩ := reaches_of_literalAccess described holds accessed
    rw [Filter.evaluate]
    exact reaches.bind_evaluate (fun value => comparison.truth value parameter.value)
      fun value fits => reaches.truth_bind bound rfl present fits

theorem evaluate_compileBetween {low high : Literal}
    (compiled : catalog.compileBetween typeName path low high = .ok filter) :
    filter.evaluate row =
      Predicate.judged documentType.kind? row.body path fun kind value =>
        Truth.conjunction [low.comparedBy .ge kind value, high.comparedBy .le kind value] := by
  obtain ⟨access, accessed, lowParameter, boundLow, highParameter, boundHigh, rfl⟩ :=
    compileBetween_eq_ok.mp compiled
  obtain ⟨field, reaches⟩ := reaches_of_literalAccess described holds accessed
  rw [Filter.evaluate]
  refine reaches.bind_evaluate
    (fun value => Filter.betweenTruth value lowParameter highParameter) fun value fits => ?_
  rw [Filter.betweenTruth,
    reaches.truth_bind boundLow rfl (by simp [Comparison.operatorClass]) fits,
    reaches.truth_bind boundHigh rfl (by simp [Comparison.operatorClass]) fits]

theorem evaluate_compileText {textMatch : TextMatch} {pattern : String} {ignoresCase : Bool}
    (compiled : catalog.compileText typeName path textMatch pattern ignoresCase = .ok filter) :
    filter.evaluate row =
      Predicate.judged documentType.kind? row.body path fun _ value =>
        value.like (.text (String.ofList (Pattern.lookingFor textMatch pattern.toList)))
          ignoresCase := by
  obtain ⟨access, accessed, rfl⟩ := compileText_eq_ok.mp compiled
  obtain ⟨field, reaches⟩ := reaches_of_literalAccess described holds accessed
  -- only texts are searched, and a column keeps texts as they are
  have texts : field.access.type = field.kind.defaultColumnType := by
    have supported := reaches.supported
    have storable := reaches.storable
    rw [reaches.stored, Field.access_kind] at storable
    have strings : field.kind = .string := eq_of_beq supported
    rw [strings] at storable ⊢
    rcases Kind.canStoreIn_cases storable with plain | ⟨_, other⟩ | ⟨_, other⟩ | ⟨_, other⟩
    · exact plain
    all_goals exact absurd other (by decide)
  rw [Filter.evaluate]
  refine reaches.bind_evaluate (fun value => value.like _ ignoresCase) fun value fits => ?_
  rw [texts, Datum.keptAs_defaultColumnType fits]

/-- Being among literals is being equal to one of them; the nulls among them are asked for
apart. -/
theorem evaluate_compileMember {literals : List Literal} {negated : Bool}
    (compiled : catalog.compileMember typeName path literals negated = .ok filter) :
    filter.evaluate row =
      if literals = [] then .ok (some negated)
      else Predicate.judged documentType.kind? row.body path fun kind value =>
        Truth.signed negated
          (Truth.disjunction (literals.map fun literal => literal.comparedBy .eq kind value)) := by
  obtain ⟨access, accessed, parameters, bound, rfl⟩ := compileMember_eq_ok.mp compiled
  obtain ⟨field, reaches⟩ := reaches_of_literalAccess described holds accessed
  have absent : parameters = [] ↔ (literals.filter fun literal => !literal.isNull) = [] := by
    rw [← List.length_eq_zero_iff, ← (mapM_eq_ok.mp bound).length_eq, List.length_eq_zero_iff]
  rw [Filter.evaluate_memberFilter]
  simp only [absent, Literal.eq_nil_iff]
  split
  · rfl
  refine reaches.bind_evaluate
    (fun value => Truth.signed negated (Truth.disjunction ((parameters.map fun parameter =>
      Comparison.eq.truth value parameter.value) ++
        if literals.any Literal.isNull then [some value.isNull] else [])))
    fun value fits => congrArg _ ?_
  have compared : (parameters.map fun parameter =>
        Comparison.eq.truth (value.keptAs field.access.type) parameter.value) =
      (literals.filter fun literal => !literal.isNull).map fun literal =>
        literal.comparedBy .eq field.kind value := by
    refine map_of_mapM_eq_ok (fun literal inside parameter same => ?_) bound
    have present : literal.isNull = false := by simpa using (List.mem_filter.mp inside).2
    exact reaches.truth_bind same rfl (by simp [present]) fits
  rw [compared, Datum.isNull_keptAs]
  exact Literal.disjunction_nulls_apart
    (fun literal absent => Literal.comparedBy_of_isNull absent field.kind value) literals

theorem evaluate_of_fieldAccess
    (accessed : catalog.fieldAccess typeName path operator = .ok access) :
    access.source.evaluate row = Predicate.brought documentType.kind? row.body path := by
  obtain ⟨field, resolved, read⟩ := fieldAccess_eq_ok.mp accessed
  obtain ⟨other, same, found⟩ := resolve_eq_ok.mp resolved
  obtain rfl := Except.ok.inj (described.symm.trans same)
  obtain ⟨held, utc⟩ := holds field (DocumentType.mem_of_field? found).1
  obtain ⟨_, _, rfl⟩ := Field.fieldAccess_eq_ok.mp read
  rw [Field.evaluate_broughtTo held utc, Predicate.brought_of_field? found]

theorem evaluate_compileFields {left right : String} {comparison : Comparison}
    (compiled : catalog.compileFields typeName left comparison right = .ok filter) :
    filter.evaluate row =
      (Predicate.ofFields left comparison right).meaning documentType.kind? row.body := by
  obtain ⟨leftAccess, leftAccessed, rightAccess, rightAccessed, _, rfl⟩ :=
    compileFields_eq_ok.mp compiled
  rw [Filter.evaluate, evaluate_of_fieldAccess described holds leftAccessed,
    evaluate_of_fieldAccess described holds rightAccessed, Predicate.ofFields, Predicate.meaning]

end

mutual

/-- A filter evaluates, on a row that holds the fields of its type, to what the predicate that it
has been compiled from means of the document. -/
theorem evaluate_compile {filter : Filter}
    (described : catalog.describe typeName = .ok documentType)
    (holds : ∀ field ∈ documentType.fields, field.HeldBy row ∧ field.InUtc row.body)
    (predicate : Predicate) (compiled : catalog.compile typeName predicate = .ok filter) :
    filter.evaluate row = predicate.meaning documentType.kind? row.body := by
  cases predicate with
  | all parts =>
    obtain ⟨filters, below, done⟩ := bind_eq_ok.mp compiled
    rw [← Except.ok.inj done, Filter.evaluate, Predicate.meaning,
      evaluate_compileAll described holds parts below]
  | any parts =>
    obtain ⟨filters, below, done⟩ := bind_eq_ok.mp compiled
    rw [← Except.ok.inj done, Filter.evaluate, Predicate.meaning,
      evaluate_compileAll described holds parts below]
  | not part =>
    obtain ⟨filter, below, done⟩ := bind_eq_ok.mp compiled
    rw [← Except.ok.inj done, Filter.evaluate, Predicate.meaning,
      evaluate_compile described holds part below]
  | compare left comparison right =>
    cases left with
    | field left =>
      cases right with
      | field right => exact evaluate_compileFields described holds compiled
      | literal value => exact evaluate_compileComparison described holds compiled
    | literal value =>
      cases right with
      | field right => exact evaluate_compileComparison described holds compiled
      | literal other => exact absurd compiled (by simp [compile])
  | member path values negated => exact evaluate_compileMember described holds compiled
  | between path low high => exact evaluate_compileBetween described holds compiled
  | isNull path negated =>
    obtain ⟨access, accessed, done⟩ := bind_eq_ok.mp compiled
    rw [← Except.ok.inj done]
    exact evaluate_isNull described holds accessed
  | text path textMatch value ignoresCase =>
    exact evaluate_compileText described holds compiled

theorem evaluate_compileAll {filters : List Filter}
    (described : catalog.describe typeName = .ok documentType)
    (holds : ∀ field ∈ documentType.fields, field.HeldBy row ∧ field.InUtc row.body)
    (parts : List Predicate) (compiled : catalog.compileAll typeName parts = .ok filters) :
    Filter.evaluateAll row filters =
      Predicate.meaningsOfAll documentType.kind? row.body parts := by
  cases parts with
  | nil =>
    rw [← Except.ok.inj compiled]
    rfl
  | cons part rest =>
    obtain ⟨first, here, compiled⟩ := bind_eq_ok.mp compiled
    obtain ⟨others, below, done⟩ := bind_eq_ok.mp compiled
    rw [← Except.ok.inj done, Filter.evaluateAll, Predicate.meaningsOfAll,
      evaluate_compile described holds part here, evaluate_compileAll described holds rest below]

end

end Catalog

end Sieve
