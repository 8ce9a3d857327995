/-
This file says which descriptions of types of documents are valid and proves that
the check accepts exactly these. The check goes through the fields with the paths
and columns seen so far; the statement carries both, so that one step of the check
is one field put in front of valid ones. What a catalog gives out is therefore
valid, whatever name or path was asked for.
-/

import Mathlib.Data.List.Nodup
import Sieve.Catalog.Basic

namespace Sieve

/-! ### Items found by a key -/

section

variable {Item Key : Type} [BEq Key] [LawfulBEq Key] {keyOf : Item → Key} {items : List Item}
  {item : Item} {key : Key}

theorem mem_of_find?_key (found : (items.find? fun item => keyOf item == key) = some item) :
    item ∈ items ∧ keyOf item = key := by
  have same := List.find?_some found
  exact ⟨List.mem_of_find?_eq_some found, beq_iff_eq.mp same⟩

/-- Where no two items have one key, an item is found by its key. -/
theorem find?_key_of_mem (distinct : (items.map keyOf).Nodup) (inside : item ∈ items) :
    (items.find? fun other => keyOf other == keyOf item) = some item := by
  have present : (items.find? fun other => keyOf other == keyOf item).isSome = true := by
    rw [List.find?_isSome]
    exact ⟨item, inside, beq_self_eq_true (keyOf item)⟩
  obtain ⟨first, found⟩ := Option.isSome_iff_exists.mp present
  obtain ⟨firstInside, same⟩ := mem_of_find?_key found
  rw [found, List.inj_on_of_nodup_map distinct firstInside inside same]

theorem find?_key_eq_some (distinct : (items.map keyOf).Nodup) :
    (items.find? fun item => keyOf item == key) = some item ↔ item ∈ items ∧ keyOf item = key := by
  refine ⟨mem_of_find?_key, ?_⟩
  rintro ⟨inside, rfl⟩
  exact find?_key_of_mem distinct inside

theorem find?_key_eq_none :
    (items.find? fun item => keyOf item == key) = none ↔ ∀ item ∈ items, keyOf item ≠ key := by
  simp only [List.find?_eq_none, beq_iff_eq, ne_eq]

end

namespace DocumentType

/-! ### Valid fields -/

/-- The columns of some fields. -/
def columnNames (fields : List Field) : List String :=
  fields.filterMap fun field => field.column?.map (·.1)

/-- Fields that are valid after others that use some paths and columns. -/
structure FieldsValid (paths columns : List String) (fields : List Field) : Prop where
  /-- No path has an empty segment. -/
  formed : ∀ field ∈ fields, isMalformedPath field.path = false
  /-- No path has been used before. -/
  pathsFresh : ∀ field ∈ fields, field.path ∉ paths
  /-- No two fields have one path. -/
  pathsDistinct : (fields.map Field.path).Nodup
  /-- No column has been used before. -/
  columnsFresh : ∀ column ∈ columnNames fields, column ∉ columns
  /-- No two fields have one column. -/
  columnsDistinct : (columnNames fields).Nodup
  /-- Every column can keep the values of its field. -/
  storable : ∀ field ∈ fields, ∀ column type, field.column? = some (column, type) →
    field.kind.canStoreIn type = true

theorem columnNames_cons (field : Field) (rest : List Field) :
    columnNames (field :: rest) = columnNames [field] ++ columnNames rest := by
  simp only [columnNames, List.filterMap_cons, List.filterMap_nil]
  cases field.column?.map (·.1) <;> rfl

theorem fieldsValid_nil (paths columns : List String) : FieldsValid paths columns [] where
  formed := by simp
  pathsFresh := by simp
  pathsDistinct := by simp
  columnsFresh := by simp [columnNames]
  columnsDistinct := by simp [columnNames]
  storable := by simp

/-- A field in front of valid ones. -/
theorem fieldsValid_cons {paths columns : List String} {field : Field} {rest : List Field} :
    FieldsValid paths columns (field :: rest) ↔
      (isMalformedPath field.path = false ∧ field.path ∉ paths) ∧
        (∀ column type, field.column? = some (column, type) →
          column ∉ columns ∧ field.kind.canStoreIn type = true) ∧
        FieldsValid (field.path :: paths) (columnNames [field] ++ columns) rest := by
  have own (column : String) :
      column ∈ columnNames [field] ↔ ∃ type, field.column? = some (column, type) := by
    simp [columnNames]
  constructor
  · intro valid
    obtain ⟨pathApart, pathsDistinct⟩ := List.nodup_cons.mp valid.pathsDistinct
    have columnsDistinct := valid.columnsDistinct
    have columnsFresh := valid.columnsFresh
    rw [columnNames_cons, List.nodup_append] at columnsDistinct
    rw [columnNames_cons] at columnsFresh
    refine ⟨⟨valid.formed field List.mem_cons_self, valid.pathsFresh field List.mem_cons_self⟩,
      fun column type stored => ⟨?_, valid.storable field List.mem_cons_self column type stored⟩,
      { formed := fun other member => valid.formed other (List.mem_cons_of_mem _ member)
        pathsFresh := ?_
        pathsDistinct := pathsDistinct
        columnsFresh := ?_
        columnsDistinct := columnsDistinct.2.1
        storable := fun other member => valid.storable other (List.mem_cons_of_mem _ member) }⟩
    · exact columnsFresh column (List.mem_append_left _ ((own column).mpr ⟨type, stored⟩))
    · intro other member same
      rcases List.mem_cons.mp same with here | before
      · exact pathApart (here ▸ List.mem_map_of_mem member)
      · exact valid.pathsFresh other (List.mem_cons_of_mem _ member) before
    · intro column member same
      rcases List.mem_append.mp same with here | before
      · exact columnsDistinct.2.2 column here column member rfl
      · exact columnsFresh column (List.mem_append_right _ member) before
  · rintro ⟨⟨formed, fresh⟩, stored, valid⟩
    refine
      { formed := List.forall_mem_cons.mpr ⟨formed, valid.formed⟩
        pathsFresh := List.forall_mem_cons.mpr ⟨fresh, fun other member used =>
          valid.pathsFresh other member (List.mem_cons_of_mem _ used)⟩
        pathsDistinct := List.nodup_cons.mpr ⟨fun used => ?_, valid.pathsDistinct⟩
        columnsFresh := ?_
        columnsDistinct := ?_
        storable := List.forall_mem_cons.mpr ⟨fun column type same => (stored column type same).2,
          valid.storable⟩ }
    · obtain ⟨other, member, same⟩ := List.mem_map.mp used
      exact valid.pathsFresh other member (same ▸ List.mem_cons_self)
    · rw [columnNames_cons]
      intro column member
      rcases List.mem_append.mp member with here | later
      · obtain ⟨type, same⟩ := (own column).mp here
        exact (stored column type same).1
      · exact fun used => valid.columnsFresh column later (List.mem_append_right _ used)
    · rw [columnNames_cons, List.nodup_append]
      refine ⟨?_, valid.columnsDistinct, ?_⟩
      · cases column : field.column? <;> simp [columnNames, column]
      · rintro column here other later rfl
        exact valid.columnsFresh column later (List.mem_append_left _ here)

/-- The check of fields accepts exactly the valid ones. -/
theorem checkFields_eq_ok_iff (typeName : String) (paths columns : List String)
    (fields : List Field) :
    checkFields typeName paths columns fields = .ok () ↔ FieldsValid paths columns fields := by
  induction fields generalizing paths columns with
  | nil => exact iff_of_true rfl (fieldsValid_nil paths columns)
  | cons field rest inductionHypothesis =>
    rw [fieldsValid_cons, checkFields]
    by_cases malformed : isMalformedPath field.path = true
    · simp [malformed]
    by_cases used : field.path ∈ paths
    · simp [malformed, used]
    rw [if_neg malformed, if_neg used]
    have good : isMalformedPath field.path = false ∧ field.path ∉ paths :=
      ⟨Bool.eq_false_iff.mpr malformed, used⟩
    cases storage : field.storage with
    | extracted =>
      have none : field.column? = none := by rw [Field.column?, storage]
      simp only [inductionHypothesis, columnNames, List.filterMap_cons, List.filterMap_nil, none,
        Option.map_none, List.nil_append, reduceCtorEq, false_imp_iff, implies_true, true_and,
        good, not_false_eq_true]
    | duplicated column type =>
      have some : field.column? = some (column, type) := by rw [Field.column?, storage]
      by_cases taken : column ∈ columns
      · simp [taken, some]
      by_cases storable : field.kind.canStoreIn type = true
      · simp [taken, storable, some, good, inductionHypothesis, columnNames]
      · simp [taken, storable, some]

/-! ### Valid types -/

/-- A description of a type of documents that a catalog may hold. -/
structure Valid (documentType : DocumentType) : Prop where
  /-- The type has a name and a table. -/
  named : documentType.name ≠ "" ∧ documentType.table ≠ ""
  /-- Its fields are valid. -/
  fields : FieldsValid [] [] documentType.fields
  /-- Its key is one of its fields. -/
  keyed : documentType.key? ≠ none

/-- The check accepts exactly the valid descriptions. -/
theorem check_eq_ok_iff (documentType : DocumentType) :
    documentType.check = .ok () ↔ documentType.Valid := by
  have parts : documentType.Valid ↔ (documentType.name ≠ "" ∧ documentType.table ≠ "") ∧
      FieldsValid [] [] documentType.fields ∧ documentType.key? ≠ none :=
    ⟨fun valid => ⟨valid.named, valid.fields, valid.keyed⟩, fun ⟨named, fields, keyed⟩ =>
      ⟨named, fields, keyed⟩⟩
  rw [parts, check]
  by_cases unnamed : documentType.name.isEmpty = true ∨ documentType.table.isEmpty = true
  · rw [if_pos unnamed]
    simp only [String.isEmpty_iff] at unnamed
    rcases unnamed with empty | empty <;> simp [empty]
  · rw [if_neg unnamed]
    simp only [String.isEmpty_iff, not_or] at unnamed
    rw [← checkFields_eq_ok_iff documentType.name]
    cases checked : checkFields documentType.name [] [] documentType.fields with
    | error error => simp
    | ok =>
      cases key : documentType.key? <;> simp [unnamed]

theorem mem_of_field? {documentType : DocumentType} {path : String} {field : Field}
    (found : documentType.field? path = some field) :
    field ∈ documentType.fields ∧ field.path = path :=
  mem_of_find?_key found

end DocumentType

namespace Catalog

variable {catalog : Catalog} {typeName path : String} {documentType : DocumentType}

/-- Whatever type a catalog gives out is valid. -/
theorem valid_of_describe (described : catalog.describe typeName = .ok documentType) :
    documentType.Valid := by
  rw [describe] at described
  split at described
  · rename_i found search
    obtain rfl := Except.ok.inj described
    exact (DocumentType.check_eq_ok_iff _).mp
      (catalog.checked _ (List.mem_of_find?_eq_some search))
  · exact absurd described (by simp)

theorem resolve_eq_ok {field : Field} :
    catalog.resolve typeName path = .ok field ↔
      ∃ documentType, catalog.describe typeName = .ok documentType ∧
        documentType.field? path = some field := by
  rw [resolve]
  cases catalog.describe typeName with
  | error error => simp
  | ok documentType =>
    simp only [Except.ok.injEq, exists_eq_left']
    cases documentType.field? path <;> simp

end Catalog

/-! ### Meetings -/

/-- A type of meetings, each with the instant at which it starts. -/
def DocumentType.meeting (start : Storage) : DocumentType :=
  ⟨"Meeting", "meetings", "Id", [⟨"Id", .uuid, .extracted⟩, ⟨"Start", .utc, start⟩]⟩

/-- A catalog of meetings alone. -/
def Catalog.meetings (start : Storage) (passed : (DocumentType.meeting start).check = .ok ()) :
    Catalog where
  types := [.meeting start]
  checked := List.forall_mem_singleton.mpr passed
  distinct := List.pairwise_singleton _ _

end Sieve
