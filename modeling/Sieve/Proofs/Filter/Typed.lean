/-
This file proves that filters are typed. Every access in a filter that has been
compiled reads a field of the catalog, every parameter is declared with a type that
holds it, and wherever two values are compared their types compare. On a stored
document an access therefore gives a value of its type, or null; it fails only where
the field has no column and its text cannot be read. A comparison is never unknown
because of the types of its sides.
-/

import Sieve.Proofs.Filter.Reading

namespace Sieve

open Outcome

/-! ### Typed filters -/

/-- A parameter that values of the type of an access can be compared with. -/
structure Access.Takes (access : Access) (parameter : Parameter) : Prop where
  /-- The parameter is declared for the type. -/
  declared : parameter.type = access.type.parameterType
  /-- Its value is null or one of the declared type. -/
  fits : parameter.value.fits parameter.type = true

namespace Filter

mutual

/-- The accesses of a filter, from left to right. -/
def accesses : Filter → List Access
  | all parts => accessesOfAll parts
  | any parts => accessesOfAll parts
  | not part => accesses part
  | compare field _ _ => [field]
  | compareFields left _ right => [left, right]
  | member field _ _ => [field]
  | between field _ _ => [field]
  | isNull field _ => [field]
  | like field _ _ => [field]

/-- The accesses of some filters. -/
def accessesOfAll : List Filter → List Access
  | [] => []
  | part :: rest => accesses part ++ accessesOfAll rest

end

/-- A filter whose accesses all have a property and whose sides compare. -/
inductive Typed (reads : Access → Prop) : Filter → Prop
  /-- All of some typed filters. -/
  | all {parts : List Filter} (below : ∀ part ∈ parts, Typed reads part) : Typed reads (.all parts)
  /-- Any of some typed filters. -/
  | any {parts : List Filter} (below : ∀ part ∈ parts, Typed reads part) : Typed reads (.any parts)
  /-- The negation of a typed filter. -/
  | not {part : Filter} (below : Typed reads part) : Typed reads (.not part)
  /-- A field compared with a parameter for it. -/
  | compare {field : Access} {comparison : Comparison} {parameter : Parameter} (read : reads field)
    (taken : field.Takes parameter) : Typed reads (.compare field comparison parameter)
  /-- Two fields of types that compare. -/
  | compareFields {left right : Access} {comparison : Comparison} (readLeft : reads left)
    (readRight : reads right) (comparable : left.type.comparesWith right.type = true) :
    Typed reads (.compareFields left comparison right)
  /-- A field among parameters for it. -/
  | member {field : Access} {parameters : List Parameter} {negated : Bool} (read : reads field)
    (taken : ∀ parameter ∈ parameters, field.Takes parameter) :
    Typed reads (.member field parameters negated)
  /-- A field between parameters for it. -/
  | between {field : Access} {low high : Parameter} (read : reads field)
    (takenLow : field.Takes low) (takenHigh : field.Takes high) :
    Typed reads (.between field low high)
  /-- A field that is null or is not. -/
  | isNull {field : Access} {negated : Bool} (read : reads field) :
    Typed reads (.isNull field negated)
  /-- A field matched with a pattern of its declared type. -/
  | like {field : Access} {pattern : Parameter} {ignoresCase : Bool} (read : reads field)
    (fits : pattern.value.fits pattern.type = true) : Typed reads (.like field pattern ignoresCase)

/-- Two values that a filter compares on a row, at whatever depth. -/
inductive Compares (row : Row) : Filter → Datum → Datum → Prop
  /-- What a part of a conjunction compares. -/
  | all {parts : List Filter} {part : Filter} {left right : Datum} (inside : part ∈ parts)
    (below : Compares row part left right) : Compares row (.all parts) left right
  /-- What a part of a disjunction compares. -/
  | any {parts : List Filter} {part : Filter} {left right : Datum} (inside : part ∈ parts)
    (below : Compares row part left right) : Compares row (.any parts) left right
  /-- What the part of a negation compares. -/
  | not {part : Filter} {left right : Datum} (below : Compares row part left right) :
    Compares row (.not part) left right
  /-- A field and a parameter. -/
  | compare {field : Access} {comparison : Comparison} {parameter : Parameter} {value : Datum}
    (read : field.source.evaluate row = .ok value) :
    Compares row (.compare field comparison parameter) value parameter.value
  /-- Two fields. -/
  | compareFields {leftField rightField : Access} {comparison : Comparison} {left right : Datum}
    (readLeft : leftField.source.evaluate row = .ok left)
    (readRight : rightField.source.evaluate row = .ok right) :
    Compares row (.compareFields leftField comparison rightField) left right
  /-- A field and one of some parameters. -/
  | member {field : Access} {parameters : List Parameter} {negated : Bool} {value : Datum}
    {parameter : Parameter} (read : field.source.evaluate row = .ok value)
    (inside : parameter ∈ parameters) :
    Compares row (.member field parameters negated) value parameter.value
  /-- A field and the parameter below it. -/
  | low {field : Access} {low high : Parameter} {value : Datum}
    (read : field.source.evaluate row = .ok value) :
    Compares row (.between field low high) value low.value
  /-- A field and the parameter above it. -/
  | high {field : Access} {low high : Parameter} {value : Datum}
    (read : field.source.evaluate row = .ok value) :
    Compares row (.between field low high) value high.value

variable {reads : Access → Prop} {row : Row} {filter : Filter}

theorem mem_parametersOfAll {parts : List Filter} {parameter : Parameter} :
    parameter ∈ parametersOfAll parts ↔ ∃ part ∈ parts, parameter ∈ part.parameters := by
  induction parts with
  | nil => simp [parametersOfAll]
  | cons part rest inductionHypothesis => simp [parametersOfAll, inductionHypothesis]

theorem mem_accessesOfAll {parts : List Filter} {access : Access} :
    access ∈ accessesOfAll parts ↔ ∃ part ∈ parts, access ∈ part.accesses := by
  induction parts with
  | nil => simp [accessesOfAll]
  | cons part rest inductionHypothesis => simp [accessesOfAll, inductionHypothesis]

/-- Every parameter of a typed filter has a value of its declared type. -/
theorem Typed.parameters (typed : Typed reads filter) :
    ∀ parameter ∈ filter.parameters, parameter.value.fits parameter.type = true := by
  induction typed with
  | all _ inductionHypothesis | any _ inductionHypothesis =>
    intro parameter member
    obtain ⟨part, inside, below⟩ := mem_parametersOfAll.mp member
    exact inductionHypothesis part inside parameter below
  | not _ inductionHypothesis => exact inductionHypothesis
  | compare _ taken => exact List.forall_mem_singleton.mpr taken.fits
  | member _ taken => exact fun parameter inside => (taken parameter inside).fits
  | between _ takenLow takenHigh =>
    exact List.forall_mem_cons.mpr ⟨takenLow.fits, List.forall_mem_singleton.mpr takenHigh.fits⟩
  | like _ fits => exact List.forall_mem_singleton.mpr fits
  | compareFields | isNull => exact fun _ inside => absurd inside List.not_mem_nil

/-- Every access of a typed filter has the property that the filter is typed by. -/
theorem Typed.accesses (typed : Typed reads filter) : ∀ access ∈ filter.accesses, reads access := by
  induction typed with
  | all _ inductionHypothesis | any _ inductionHypothesis =>
    intro access member
    obtain ⟨part, inside, below⟩ := mem_accessesOfAll.mp member
    exact inductionHypothesis part inside access below
  | not _ inductionHypothesis => exact inductionHypothesis
  | compareFields readLeft readRight =>
    exact List.forall_mem_cons.mpr ⟨readLeft, List.forall_mem_singleton.mpr readRight⟩
  | compare read | member read | between read | isNull read | like read =>
    exact List.forall_mem_singleton.mpr read

theorem comparesWith_self_parameterType (type : ColumnType) :
    type.comparesWith type.parameterType = true := by
  cases type <;> rfl

/-- Where accesses give values of their types, whatever a typed filter compares is of types that
compare. -/
theorem Typed.compares (typed : Typed reads filter)
    (sound : ∀ access, reads access → ∀ value, access.source.evaluate row = .ok value →
      value.fits access.type = true) {left right : Datum}
    (compared : Compares row filter left right) :
    ∃ leftType rightType, left.fits leftType = true ∧ right.fits rightType = true ∧
      leftType.comparesWith rightType = true := by
  have withParameter {field : Access} {parameter : Parameter} {value : Datum}
      (property : reads field) (taken : field.Takes parameter)
      (read : field.source.evaluate row = .ok value) :
      ∃ leftType rightType, value.fits leftType = true ∧
        parameter.value.fits rightType = true ∧ leftType.comparesWith rightType = true :=
    ⟨field.type, parameter.type, sound field property value read, taken.fits,
      taken.declared ▸ comparesWith_self_parameterType field.type⟩
  induction compared with
  | all inside _ inductionHypothesis | any inside _ inductionHypothesis =>
    cases typed with
    | _ below => exact inductionHypothesis (below _ inside)
  | not _ inductionHypothesis =>
    cases typed with
    | not below => exact inductionHypothesis below
  | compare read =>
    cases typed with
    | compare property taken => exact withParameter property taken read
  | compareFields readLeft readRight =>
    cases typed with
    | compareFields left right comparable =>
      exact ⟨_, _, sound _ left _ readLeft, sound _ right _ readRight, comparable⟩
  | member read inside =>
    cases typed with
    | member property taken => exact withParameter property (taken _ inside) read
  | low read =>
    cases typed with
    | between property takenLow _ => exact withParameter property takenLow read
  | high read =>
    cases typed with
    | between property _ takenHigh => exact withParameter property takenHigh read

end Filter

/-! ### What is compiled is typed -/

namespace Catalog

variable {catalog : Catalog} {typeName path : String} {operator : Operator} {access : Access}

/-- An access that reads a field of the catalog, as it is stored or brought to the type in which
fields of its kind are compared. -/
def Reads (catalog : Catalog) (typeName : String) (access : Access) : Prop :=
  ∃ field, catalog.resolve typeName access.path = .ok field ∧
    (access = field.access ∨ access = field.access.broughtTo field.kind.comparisonType)

theorem path_of_resolve {field : Field} (resolved : catalog.resolve typeName path = .ok field) :
    field.path = path := by
  obtain ⟨documentType, _, found⟩ := resolve_eq_ok.mp resolved
  exact (DocumentType.mem_of_field? found).2

/-- A field that is compared with literals is read as it is stored, and takes what the literals
are bound as. -/
theorem reads_of_literalAccess
    (accessed : catalog.literalAccess typeName path operator = .ok access) :
    catalog.Reads typeName access ∧
      ∀ literal parameter, access.bind literal = .ok parameter → access.Takes parameter := by
  obtain ⟨field, resolved, read⟩ := literalAccess_eq_ok.mp accessed
  obtain ⟨_, answered, rfl⟩ := Field.literalAccess_eq_ok.mp read
  have storable : field.Storable := fun column type same => (answered column type same).1
  refine ⟨⟨field, ?_, .inl rfl⟩, fun literal parameter bound => ?_⟩
  · rwa [Field.access_path, path_of_resolve resolved]
  · have kept := Field.canStoreIn_access_type storable
    rw [← field.access_kind] at kept
    obtain ⟨value, means, rfl⟩ := (Access.bind_eq_ok kept).mp bound
    exact ⟨rfl, Datum.fits_keptAs kept (Literal.fits_of_value? means)⟩

theorem reads_of_fieldAccess
    (accessed : catalog.fieldAccess typeName path operator = .ok access) :
    catalog.Reads typeName access := by
  obtain ⟨field, resolved, read⟩ := fieldAccess_eq_ok.mp accessed
  obtain ⟨_, _, rfl⟩ := Field.fieldAccess_eq_ok.mp read
  refine ⟨field, ?_, .inr rfl⟩
  rwa [Field.broughtTo_path, Field.access_path, path_of_resolve resolved]

variable {filter : Filter}

theorem typed_of_compileComparison {comparison : Comparison} {value : Literal}
    (compiled : catalog.compileComparison typeName path comparison value = .ok filter) :
    filter.Typed (catalog.Reads typeName) := by
  rw [compileComparison_eq_ok] at compiled
  split at compiled
  · obtain ⟨access, accessed, rfl⟩ := compiled
    exact .isNull (reads_of_literalAccess accessed).1
  · obtain ⟨access, accessed, parameter, bound, rfl⟩ := compiled
    obtain ⟨read, takes⟩ := reads_of_literalAccess accessed
    exact .compare read (takes value parameter bound)

theorem typed_of_compileFields {comparison : Comparison} {left right : String}
    (compiled : catalog.compileFields typeName left comparison right = .ok filter) :
    filter.Typed (catalog.Reads typeName) := by
  obtain ⟨_, leftAccessed, _, rightAccessed, comparable, rfl⟩ := compileFields_eq_ok.mp compiled
  exact .compareFields (reads_of_fieldAccess leftAccessed) (reads_of_fieldAccess rightAccessed)
    comparable

/-- A field among parameters is typed, whether or not null is among them too. -/
theorem typed_memberFilter {reads : Access → Prop} {parameters : List Parameter}
    (read : reads access) (taken : ∀ parameter ∈ parameters, access.Takes parameter)
    (orNull negated : Bool) : (memberFilter access parameters orNull negated).Typed reads := by
  have missing : Filter.Typed reads (.isNull access false) := .isNull read
  have positive : Filter.Typed reads
      (if parameters.isEmpty then .isNull access false
        else .any [.member access parameters false, .isNull access false]) := by
    split
    · exact missing
    · exact .any (List.forall_mem_cons.mpr
        ⟨.member read taken, List.forall_mem_singleton.mpr missing⟩)
  cases orNull with
  | true =>
    cases negated with
    | true => exact .not positive
    | false => exact positive
  | false =>
    cases parameters with
    | nil =>
      cases negated with
      | true => exact .all fun _ inside => absurd inside List.not_mem_nil
      | false => exact .any fun _ inside => absurd inside List.not_mem_nil
    | cons parameter rest => exact .member read taken

theorem typed_of_compileMember {values : List Literal} {negated : Bool}
    (compiled : catalog.compileMember typeName path values negated = .ok filter) :
    filter.Typed (catalog.Reads typeName) := by
  obtain ⟨access, accessed, parameters, bound, rfl⟩ := compileMember_eq_ok.mp compiled
  obtain ⟨read, takes⟩ := reads_of_literalAccess accessed
  refine typed_memberFilter read (fun parameter inside => ?_) _ _
  obtain ⟨literal, same⟩ := mem_of_mapM_eq_ok bound inside
  exact takes literal parameter same

theorem typed_of_compileBetween {low high : Literal}
    (compiled : catalog.compileBetween typeName path low high = .ok filter) :
    filter.Typed (catalog.Reads typeName) := by
  obtain ⟨access, accessed, _, boundLow, _, boundHigh, rfl⟩ := compileBetween_eq_ok.mp compiled
  obtain ⟨read, takes⟩ := reads_of_literalAccess accessed
  exact .between read (takes low _ boundLow) (takes high _ boundHigh)

theorem typed_of_compileText {textMatch : TextMatch} {value : String} {ignoresCase : Bool}
    (compiled : catalog.compileText typeName path textMatch value ignoresCase = .ok filter) :
    filter.Typed (catalog.Reads typeName) := by
  obtain ⟨access, accessed, rfl⟩ := compileText_eq_ok.mp compiled
  exact .like (reads_of_literalAccess accessed).1 rfl

mutual

/-- Every filter that is compiled is typed. -/
theorem typed_of_compile {filter : Filter} (predicate : Predicate)
    (compiled : catalog.compile typeName predicate = .ok filter) :
    filter.Typed (catalog.Reads typeName) := by
  cases predicate with
  | all parts =>
    obtain ⟨filters, below, done⟩ := bind_eq_ok.mp compiled
    rw [← Except.ok.inj done]
    exact .all (typed_of_compileAll parts below)
  | any parts =>
    obtain ⟨filters, below, done⟩ := bind_eq_ok.mp compiled
    rw [← Except.ok.inj done]
    exact .any (typed_of_compileAll parts below)
  | not part =>
    obtain ⟨filter, below, done⟩ := bind_eq_ok.mp compiled
    rw [← Except.ok.inj done]
    exact .not (typed_of_compile part below)
  | compare left comparison right =>
    cases left with
    | field left =>
      cases right with
      | field right => exact typed_of_compileFields compiled
      | literal value => exact typed_of_compileComparison compiled
    | literal value =>
      cases right with
      | field right => exact typed_of_compileComparison compiled
      | literal other => exact absurd compiled (by simp [compile])
  | member path values negated => exact typed_of_compileMember compiled
  | between path low high => exact typed_of_compileBetween compiled
  | isNull path negated =>
    obtain ⟨access, accessed, done⟩ := bind_eq_ok.mp compiled
    rw [← Except.ok.inj done]
    exact .isNull (reads_of_literalAccess accessed).1
  | text path textMatch value ignoresCase => exact typed_of_compileText compiled

theorem typed_of_compileAll {filters : List Filter} (parts : List Predicate)
    (compiled : catalog.compileAll typeName parts = .ok filters) :
    ∀ filter ∈ filters, filter.Typed (catalog.Reads typeName) := by
  cases parts with
  | nil =>
    rw [← Except.ok.inj compiled]
    exact fun _ inside => absurd inside List.not_mem_nil
  | cons part rest =>
    obtain ⟨first, here, compiled⟩ := bind_eq_ok.mp compiled
    obtain ⟨others, below, done⟩ := bind_eq_ok.mp compiled
    rw [← Except.ok.inj done]
    exact List.forall_mem_cons.mpr ⟨typed_of_compile part here, typed_of_compileAll rest below⟩

end

end Catalog

/-! ### What is read from stored documents -/

namespace Field

variable {field : Field} {row : Row}

/-- A field brought to the type of its kind is read as a value of that type, or its text is
unreadable and it has no column. -/
theorem evaluate_broughtTo_cases (held : field.HeldBy row) {access : Access}
    (brought : access = field.access.broughtTo field.kind.comparisonType) :
    (∃ value, access.source.evaluate row = .ok value ∧ value.fits access.type = true) ∨
      ∃ error, access.source.evaluate row = .error error ∧ field.column? = none ∧
        field.Unreadable row.body error := by
  have stored := evaluate_access_cases held
  rcases broughtTo_comparisonType held.storable with
    ⟨same, _⟩ | ⟨_, clocked, zoned⟩ | ⟨column, texts, spelled, same⟩
  · rwa [brought, same]
  · rw [brought, zoned]
    rcases stored with ⟨value, read, fits⟩ | ⟨error, failed, extracted, unreadable⟩
    · rw [clocked] at fits
      refine .inl ?_
      rw [Source.evaluate, read, ok_bind]
      cases value <;> first | exact ⟨_, rfl, rfl⟩ | exact absurd fits Bool.false_ne_true
    · refine .inr ⟨error, ?_, extracted, unreadable⟩
      rw [Source.evaluate, failed, error_bind]
  · obtain ⟨typed, found, kept⟩ :=
      value_of_columnValue_text spelled (held.column column .text texts)
    refine .inl ⟨typed, ?_, ?_⟩
    · rw [brought, same, Source.evaluate, evaluate_access_of_column texts, ok_bind, kept]
      exact Datum.cast_keptIn_text (fits_of_value found) spelled
    · rw [brought, same]
      exact fits_of_value found

theorem storage_of_column? (extracted : field.column? = none) : field.storage = .extracted := by
  rw [column?] at extracted
  split at extracted
  · assumption
  · exact absurd extracted (by simp)

end Field

namespace Catalog

/-- An access to a field of a stored document gives a value of its type, or the field has no
column and its text is unreadable. -/
theorem Reads.evaluate_cases {catalog : Catalog} {documentType : DocumentType}
    {document : Document} {access : Access} (read : catalog.Reads document.typeName access)
    (described : catalog.describe document.typeName = .ok documentType)
    (stores : documentType.Stores document) :
    (∃ value, access.source.evaluate document.row = .ok value ∧
        value.fits access.type = true) ∨
      ∃ field error, catalog.resolve document.typeName access.path = .ok field ∧
        field.storage = .extracted ∧ field.Unreadable document.body error ∧
        access.source.evaluate document.row = .error error := by
  obtain ⟨field, resolved, way⟩ := read
  obtain ⟨found, same, search⟩ := resolve_eq_ok.mp resolved
  obtain rfl := Except.ok.inj (described.symm.trans same)
  have held : field.HeldBy document.row :=
    Field.heldBy_of_stores (valid_of_describe described) stores
      (DocumentType.mem_of_field? search).1
  have cases : (∃ value, access.source.evaluate document.row = .ok value ∧
        value.fits access.type = true) ∨
      ∃ error, access.source.evaluate document.row = .error error ∧ field.column? = none ∧
        field.Unreadable document.body error := by
    rcases way with stored | brought
    · rw [stored]
      exact Field.evaluate_access_cases held
    · exact Field.evaluate_broughtTo_cases held brought
  rcases cases with good | ⟨error, failed, extracted, unreadable⟩
  · exact .inl good
  · exact .inr ⟨field, error, resolved, Field.storage_of_column? extracted, unreadable, failed⟩

/-- A filter that has been compiled is typed, and stays so on every document that changes have
led a store to. Its parameters are of their declared types. An access gives a value of its type or
null, and fails only for a field without a column whose text cannot be cast to the type of its
kind. What it compares has an order unless a side is null or no number. -/
theorem compiled_sound {planner : Planner} {typeName : String} {predicate : Predicate}
    {filter : Filter} (compiled : planner.catalog.compile typeName predicate = .ok filter) :
    (∀ parameter ∈ filter.parameters, parameter.value.fits parameter.type = true) ∧
      ∀ changes, ∀ document ∈ ((Store.empty planner).afterAll changes).documents,
        document.typeName = typeName →
          (∀ access ∈ filter.accesses,
            (∃ value, access.source.evaluate document.row = .ok value ∧
                value.fits access.type = true) ∨
              ∃ field error, planner.catalog.resolve typeName access.path = .ok field ∧
                field.storage = .extracted ∧ field.Unreadable document.body error ∧
                access.source.evaluate document.row = .error error) ∧
            ∀ left right, filter.Compares document.row left right →
              ∀ comparison : Comparison, comparison.truth left right = none ↔
                (left.isNull = true ∨ left.isNaN = true) ∨
                  right.isNull = true ∨ right.isNaN = true := by
  have typed := typed_of_compile predicate compiled
  refine ⟨typed.parameters, ?_⟩
  rintro changes document member rfl
  obtain ⟨documentType, described, stores⟩ :=
    Store.sound_afterAll_empty planner changes document member
  have reads : ∀ access, planner.catalog.Reads document.typeName access → _ :=
    fun access read => read.evaluate_cases described stores
  refine ⟨fun access inside => reads access (typed.accesses access inside), ?_⟩
  intro left right compared comparison
  obtain ⟨leftType, rightType, leftFits, rightFits, comparable⟩ :=
    typed.compares (fun access read value evaluated => by
      rcases reads access read with ⟨found, done, fits⟩ | ⟨_, error, _, _, _, failed⟩
      · exact Except.ok.inj (done.symm.trans evaluated) ▸ fits
      · exact absurd (failed.symm.trans evaluated) (by simp)) compared
  rw [Comparison.truth, Option.map_eq_none_iff]
  exact Datum.compare?_eq_none_iff leftFits rightFits comparable

/-- A stored meeting has an order with every instant that it is compared with. -/
theorem compiled_sound_meeting :
    ∃ document ∈ ((Store.ofMeetings (.duplicated "start" .timestampTz) rfl).afterAll
        [.meeting "2026-03-01T14:00:00Z"]).documents,
      ∀ left right,
        Filter.Compares document.row
            (.compare ⟨"Start", .utc, .column "start", .timestampTz⟩ .lt
              ⟨.timestampTz ⟨⟨0, 0⟩⟩, .timestampTz⟩) left right →
          ∀ comparison : Comparison, comparison.truth left right = none ↔
            (left.isNull = true ∨ left.isNaN = true) ∨
              right.isNull = true ∨ right.isNaN = true := by
  have named : (((Store.ofMeetings (.duplicated "start" .timestampTz) rfl).afterAll
      [.meeting "2026-03-01T14:00:00Z"]).documents.head?).map Document.typeName =
        some "Meeting" := by
    decide +kernel
  obtain ⟨document, first, sameName⟩ := Option.map_eq_some_iff.mp named
  have member := List.mem_of_head? first
  have compiled : (meetings (.duplicated "start" .timestampTz) rfl).compile "Meeting"
      (.ofField "Start" .lt (.utc ⟨⟨0, 0⟩⟩)) =
        .ok (.compare ⟨"Start", .utc, .column "start", .timestampTz⟩ .lt
          ⟨.timestampTz ⟨⟨0, 0⟩⟩, .timestampTz⟩) := rfl
  exact ⟨document, member, ((@compiled_sound ⟨_, .standard⟩ _ _ _ compiled).2 _ document
    member sameName).2⟩

end Catalog

end Sieve
