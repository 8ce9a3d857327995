/-
This file says which lists of descriptions make a catalog and what the catalog then
answers. Types are registered one after another; what one registration asks of its
type and of those before it is known, and so is, by induction on the list, what all
of them ask together: valid descriptions with names of their own. Since names and
paths are distinct, what is found under one is all there is under it.
-/

import Sieve.Proofs.Catalog.Valid
import Sieve.Proofs.Outcome
import Sieve.Proofs.Text.Basic

namespace Sieve

open Outcome

/-! ### Paths -/

/-- The pieces of a text are those of the list of its characters. -/
theorem Text.pieces_eq_splitOn (separator : Char) (text : List Char) :
    pieces separator text = text.splitOn separator := by
  induction text with
  | nil => rfl
  | cons character rest inductionHypothesis =>
    rw [pieces, List.splitOn, List.splitOnP_cons_eq_if_modifyHead, inductionHypothesis]
    by_cases here : character = separator
    · rw [if_pos here, if_pos (beq_iff_eq.mpr here)]
      rfl
    · rw [if_neg here, if_neg (mt beq_iff_eq.mp here)]
      cases split : rest.splitOn separator with
      | nil => exact absurd split (List.splitOn_ne_nil _ _)
      | cons piece others =>
        rw [List.splitOn] at split
        rw [split]
        rfl

theorem isMalformedPath_eq_false_iff (path : String) :
    isMalformedPath path = false ↔ [] ∉ path.toList.splitOn '.' := by
  rw [isMalformedPath, Text.pieces_eq_splitOn, List.any_eq_false]
  constructor
  · exact fun formed inside => formed [] inside rfl
  · rintro formed piece inside empty
    exact formed (List.isEmpty_iff.mp empty ▸ inside)

/-! ### Types -/

namespace DocumentType

/-- What is asked of a description of a type of documents. -/
structure WellFormed (documentType : DocumentType) : Prop where
  /-- The type has a name. -/
  named : documentType.name ≠ ""
  /-- It has a table. -/
  tabled : documentType.table ≠ ""
  /-- No path has an empty segment between dots or at an end. -/
  formed : ∀ field ∈ documentType.fields, [] ∉ field.path.toList.splitOn '.'
  /-- No two fields have one path. -/
  pathsDistinct : (documentType.fields.map Field.path).Nodup
  /-- No two fields have one column. -/
  columnsDistinct : (columnNames documentType.fields).Nodup
  /-- Every column can keep the values of its field. -/
  storable : ∀ field ∈ documentType.fields, ∀ column type,
    field.storage = .duplicated column type → field.kind.canStoreIn type = true
  /-- The key is a field. -/
  keyed : ∃ field ∈ documentType.fields, field.path = documentType.keyPath

variable {documentType : DocumentType}

theorem column?_eq_some {field : Field} {column : String} {type : ColumnType} :
    field.column? = some (column, type) ↔ field.storage = .duplicated column type := by
  rw [Field.column?]
  cases field.storage <;> simp

theorem key?_ne_none :
    documentType.key? ≠ none ↔
      ∃ field ∈ documentType.fields, field.path = documentType.keyPath := by
  rw [key?, field?, ne_eq, find?_key_eq_none]
  push Not
  rfl

theorem valid_iff_wellFormed : documentType.Valid ↔ documentType.WellFormed := by
  constructor
  · intro valid
    exact
      { named := valid.named.1
        tabled := valid.named.2
        formed := fun field inside =>
          (isMalformedPath_eq_false_iff _).mp (valid.fields.formed field inside)
        pathsDistinct := valid.fields.pathsDistinct
        columnsDistinct := valid.fields.columnsDistinct
        storable := fun field inside column type stored =>
          valid.fields.storable field inside column type (column?_eq_some.mpr stored)
        keyed := key?_ne_none.mp valid.keyed }
  · intro wellFormed
    exact
      { named := ⟨wellFormed.named, wellFormed.tabled⟩
        fields :=
          { formed := fun field inside =>
              (isMalformedPath_eq_false_iff _).mpr (wellFormed.formed field inside)
            pathsFresh := fun _ _ => List.not_mem_nil
            pathsDistinct := wellFormed.pathsDistinct
            columnsFresh := fun _ _ => List.not_mem_nil
            columnsDistinct := wellFormed.columnsDistinct
            storable := fun field inside column type stored =>
              wellFormed.storable field inside column type (column?_eq_some.mp stored) }
        keyed := key?_ne_none.mpr wellFormed.keyed }

theorem check_eq_ok : documentType.check = .ok () ↔ documentType.WellFormed :=
  (check_eq_ok_iff documentType).trans valid_iff_wellFormed

/-- The field at a path is the only one there. -/
theorem field?_eq_some (wellFormed : documentType.WellFormed) {path : String} {field : Field} :
    documentType.field? path = some field ↔ field ∈ documentType.fields ∧ field.path = path :=
  find?_key_eq_some wellFormed.pathsDistinct

end DocumentType

/-! ### Catalogs -/

namespace Catalog

variable {catalog next : Catalog} {types : List DocumentType} {documentType : DocumentType}
  {typeName path : String} {error : Rejection}

/-- A type is registered behind those before it if it is well formed and its name is new. -/
theorem register_eq_ok :
    catalog.register documentType = .ok next ↔ documentType.WellFormed ∧
      documentType.name ∉ catalog.types.map DocumentType.name ∧
        next.types = catalog.types ++ [documentType] := by
  rw [← DocumentType.check_eq_ok, register]
  split
  · rename_i error failed
    simp [failed]
  · rename_i passed
    split
    · rename_i used
      simp [used]
    · rename_i fresh
      have same (other : Catalog) : .ok other = (.ok next : Except Rejection Catalog) ↔
          next.types = other.types := by
        rw [Except.ok.injEq]
        constructor
        · rintro rfl
          rfl
        · cases other
          cases next
          rintro rfl
          rfl
      rw [same]
      exact ⟨fun registered => ⟨passed, fresh, registered⟩, fun registered => registered.2.2⟩

theorem exists_register (wellFormed : documentType.WellFormed)
    (fresh : documentType.name ∉ catalog.types.map DocumentType.name) :
    ∃ next, catalog.register documentType = .ok next := by
  rw [register]
  split
  · rename_i failed
    exact absurd ((DocumentType.check_eq_ok.mpr wellFormed).symm.trans failed) nofun
  · rw [dif_neg fresh]
    exact ⟨_, rfl⟩

/-- What registering types one after another asks of them. -/
theorem foldlM_register_eq_ok :
    types.foldlM register catalog = .ok next ↔ (∀ documentType ∈ types, documentType.WellFormed) ∧
      ((catalog.types ++ types).map DocumentType.name).Nodup ∧
        next.types = catalog.types ++ types := by
  induction types generalizing catalog with
  | nil =>
    rw [List.foldlM_nil, pure_eq_ok, Except.ok.injEq, List.append_nil]
    constructor
    · rintro rfl
      exact ⟨by simp, catalog.distinct, rfl⟩
    · rintro ⟨-, -, same⟩
      cases catalog
      cases next
      cases same
      rfl
  | cons first rest inductionHypothesis =>
    rw [List.foldlM_cons, bind_eq_ok, List.forall_mem_cons]
    constructor
    · rintro ⟨middle, here, below⟩
      obtain ⟨wellFormed, _, middleTypes⟩ := register_eq_ok.mp here
      obtain ⟨others, distinct, nextTypes⟩ := inductionHypothesis.mp below
      rw [middleTypes, List.append_assoc, List.singleton_append] at distinct nextTypes
      exact ⟨⟨wellFormed, others⟩, distinct, nextTypes⟩
    · rintro ⟨⟨wellFormed, others⟩, distinct, nextTypes⟩
      have fresh : first.name ∉ catalog.types.map DocumentType.name := by
        rw [List.map_append, List.map_cons] at distinct
        exact fun used => (List.nodup_append.mp distinct).2.2 _ used _ List.mem_cons_self rfl
      obtain ⟨middle, here⟩ := exists_register wellFormed fresh
      have middleTypes := (register_eq_ok.mp here).2.2
      refine ⟨middle, here, inductionHypothesis.mpr ⟨others, ?_, ?_⟩⟩
      · rwa [middleTypes, List.append_assoc, List.singleton_append]
      · rwa [middleTypes, List.append_assoc, List.singleton_append]

theorem describe_eq_ok :
    catalog.describe typeName = .ok documentType ↔
      documentType ∈ catalog.types ∧ documentType.name = typeName := by
  rw [← find?_key_eq_some catalog.distinct, describe]
  cases catalog.types.find? fun documentType => documentType.name == typeName <;> simp

theorem describe_eq_error :
    catalog.describe typeName = .error error ↔ error = .unknownType typeName ∧
      ∀ documentType ∈ catalog.types, documentType.name ≠ typeName := by
  rw [← find?_key_eq_none, describe]
  cases catalog.types.find? fun documentType => documentType.name == typeName <;> simp [eq_comm]

theorem resolve_eq_error :
    catalog.resolve typeName path = .error error ↔
      catalog.describe typeName = .error error ∨
        error = .unknownField typeName path ∧ ∃ documentType,
          catalog.describe typeName = .ok documentType ∧ documentType.field? path = none := by
  rw [resolve]
  cases catalog.describe typeName with
  | error found => simp
  | ok documentType =>
    simp only [reduceCtorEq, false_or, Except.ok.injEq, exists_eq_left']
    cases documentType.field? path <;> simp [eq_comm]

/-- Descriptions make a catalog just where each of them is well formed and no two are for types of
one name. The catalog then describes the types of these names and resolves the paths of their
fields, each to the only type or field there is; where there is none, it says whether the type or
the field is not known. -/
theorem ofTypes_accepts_wellFormed (types : List DocumentType) :
    ((∃ catalog, ofTypes types = .ok catalog) ↔
      (types.map DocumentType.name).Nodup ∧
        ∀ documentType ∈ types, documentType.WellFormed) ∧
    ∀ catalog, ofTypes types = .ok catalog → ∀ typeName path : String,
      (∀ documentType, catalog.describe typeName = .ok documentType ↔
        documentType ∈ types ∧ documentType.name = typeName) ∧
      (∀ error, catalog.describe typeName = .error error ↔
        error = .unknownType typeName ∧ ∀ documentType ∈ types, documentType.name ≠ typeName) ∧
      (∀ field, catalog.resolve typeName path = .ok field ↔
        ∃ documentType ∈ types, documentType.name = typeName ∧
          field ∈ documentType.fields ∧ field.path = path) ∧
      ∀ error, catalog.resolve typeName path = .error error ↔
        error = .unknownType typeName ∧
            (∀ documentType ∈ types, documentType.name ≠ typeName) ∨
          error = .unknownField typeName path ∧ ∃ documentType ∈ types,
            documentType.name = typeName ∧ ∀ field ∈ documentType.fields, field.path ≠ path := by
  have accepted (catalog : Catalog) : ofTypes types = .ok catalog ↔
      (∀ documentType ∈ types, documentType.WellFormed) ∧
        (types.map DocumentType.name).Nodup ∧ catalog.types = types :=
    foldlM_register_eq_ok
  refine ⟨⟨?_, ?_⟩, ?_⟩
  · rintro ⟨catalog, made⟩
    obtain ⟨wellFormed, distinct, _⟩ := (accepted catalog).mp made
    exact ⟨distinct, wellFormed⟩
  · rintro ⟨distinct, wellFormed⟩
    refine ⟨⟨types, fun documentType inside => ?_, distinct⟩,
      (accepted _).mpr ⟨wellFormed, distinct, rfl⟩⟩
    exact DocumentType.check_eq_ok.mpr (wellFormed documentType inside)
  · intro catalog made typeName path
    obtain ⟨wellFormed, _, rfl⟩ := (accepted catalog).mp made
    refine ⟨fun _ => describe_eq_ok, fun _ => describe_eq_error, fun field => ?_, fun error => ?_⟩
    · rw [resolve_eq_ok]
      refine exists_congr fun documentType => ?_
      rw [describe_eq_ok, and_assoc]
      refine and_congr_right fun inside => and_congr_right fun _ => ?_
      exact DocumentType.field?_eq_some (wellFormed documentType inside)
    · rw [resolve_eq_error, describe_eq_error]
      refine or_congr_right (and_congr_right fun _ => exists_congr fun documentType => ?_)
      rw [describe_eq_ok, and_assoc, DocumentType.field?, find?_key_eq_none]

/-- Meetings and rooms each have a key of their own at one path; twice the same types are no
catalog. -/
theorem ofTypes_accepts_meetings_and_rooms :
    let room : DocumentType := ⟨"Room", "rooms", "Id", [⟨"Id", .string, .extracted⟩]⟩
    let types : List DocumentType := [.meeting (.duplicated "start" .timestampTz), room]
    (∃ catalog, ofTypes types = .ok catalog ∧
      catalog.resolve "Room" "Id" = .ok ⟨"Id", .string, .extracted⟩ ∧
      catalog.resolve "Room" "Start" = .error (.unknownField "Room" "Start")) ∧
    ¬∃ catalog, ofTypes (types ++ types) = .ok catalog := by
  intro room types
  obtain ⟨_, answers⟩ := ofTypes_accepts_wellFormed types
  refine ⟨⟨_, rfl, ?_, ?_⟩, ?_⟩
  · exact ((answers _ rfl "Room" "Id").2.2.1 _).mpr
      ⟨room, by simp [types], rfl, by simp [room], rfl⟩
  · exact ((answers _ rfl "Room" "Start").2.2.2 _).mpr
      (.inr ⟨rfl, room, by simp [types], rfl, by simp [room]⟩)
  · rw [(ofTypes_accepts_wellFormed (types ++ types)).1]
    exact fun accepted => absurd accepted.1 (by decide)

end Catalog

end Sieve
