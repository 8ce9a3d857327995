/-
This file follows a store through a sequence of changes. A change gives the store back
whether it succeeds or not: one that fails leaves the store as it was, and one that
succeeds removes documents or adds one that has been checked against its type. What the
check gives a document therefore holds of every document in every store that changes
lead to: its columns hold what its fields say, and its instants have passed the check
for UTC.
-/

import Sieve.Proofs.Catalog.Valid
import Sieve.Proofs.Outcome
import Sieve.Store.Basic

namespace Sieve

open Outcome

/-! ### Columns -/

/-- The columns of fields are named as the fields say, and each holds the value of its field. -/
theorem columnsOf_sound {body : Json} {fields : List Field} {columns : List (String × Datum)}
    (made : columnsOf body fields = .ok columns) :
    columns.map (·.1) = DocumentType.columnNames fields ∧
      ∀ field ∈ fields, ∀ column type, field.column? = some (column, type) →
        ∃ value, field.columnValue type body = .ok value ∧ (column, value) ∈ columns := by
  induction fields generalizing columns with
  | nil =>
    obtain rfl := Except.ok.inj made
    exact ⟨rfl, by simp⟩
  | cons first rest inductionHypothesis =>
    rw [columnsOf] at made
    rw [DocumentType.columnNames_cons]
    cases storage : first.storage with
    | extracted =>
      have none : first.column? = none := by rw [Field.column?, storage]
      rw [storage] at made
      obtain ⟨names, values⟩ := inductionHypothesis made
      refine ⟨by simp [names, DocumentType.columnNames, none], ?_⟩
      refine List.forall_mem_cons.mpr ⟨fun column type same => ?_, values⟩
      rw [none] at same
      exact absurd same (by simp)
    | duplicated column type =>
      have some : first.column? = some (column, type) := by rw [Field.column?, storage]
      rw [storage] at made
      obtain ⟨value, here, made⟩ := bind_eq_ok.mp made
      obtain ⟨others, below, made⟩ := bind_eq_ok.mp made
      obtain rfl := Except.ok.inj made
      obtain ⟨names, values⟩ := inductionHypothesis below
      refine ⟨by simp [names, DocumentType.columnNames, some], ?_⟩
      refine List.forall_mem_cons.mpr ⟨fun other otherType same => ?_, ?_⟩
      · rw [some, Option.some.injEq, Prod.mk.injEq] at same
        obtain ⟨rfl, rfl⟩ := same
        exact ⟨value, here, List.mem_cons_self⟩
      · intro field member other otherType same
        obtain ⟨found, computed, inside⟩ := values field member other otherType same
        exact ⟨found, computed, List.mem_cons_of_mem _ inside⟩

/-- Where no two columns have one name, a column is found by its name. -/
theorem Row.column_of_mem {row : Row} {name : String} {value : Datum}
    (distinct : (row.columns.map (·.1)).Nodup) (member : (name, value) ∈ row.columns) :
    row.column name = value := by
  rw [Row.column, find?_key_of_mem distinct member]
  rfl

/-! ### Documents that were checked -/

/-- A document as its type leaves it: its instants have been checked and its columns hold what
the fields say. -/
structure DocumentType.Stores (documentType : DocumentType) (document : Document) : Prop where
  /-- Every field has passed the check for UTC. -/
  utc : ∀ field ∈ documentType.fields, field.checkUtc document.body = .ok ()
  /-- The columns are those of the fields. -/
  columns : columnsOf document.body documentType.fields = .ok document.columns

/-- The column of a field of a stored document has the value that is computed for the field. -/
theorem DocumentType.Stores.column {documentType : DocumentType} {document : Document}
    (stores : documentType.Stores document) (valid : documentType.Valid) {field : Field}
    (member : field ∈ documentType.fields) {column : String} {type : ColumnType}
    (stored : field.column? = some (column, type)) :
    field.columnValue type document.body = .ok (document.row.column column) := by
  obtain ⟨names, values⟩ := columnsOf_sound stores.columns
  obtain ⟨value, computed, inside⟩ := values field member column type stored
  have distinct : (document.row.columns.map (·.1)).Nodup := by
    rw [Document.row, names]
    exact valid.fields.columnsDistinct
  rw [computed, Row.column_of_mem distinct inside]

namespace Store

/-- What is prepared to be stored has been checked against its type. -/
theorem prepare_sound {store : Store} {typeName : String} {body : Json} {fresh : Uuid}
    {document : Document} (prepared : store.prepare typeName body fresh = .ok document) :
    ∃ documentType, store.planner.catalog.describe typeName = .ok documentType ∧
      document.typeName = typeName ∧ documentType.Stores document ∧
      documentType.keyOf body fresh = .ok (document.key, document.body) := by
  obtain ⟨documentType, described, prepared⟩ := bind_eq_ok.mp prepared
  rw [mapError_eq_ok] at described
  cases body with
  | record members =>
    obtain ⟨⟨key, keyed⟩, keyFound, prepared⟩ := bind_eq_ok.mp prepared
    obtain ⟨_, checked, prepared⟩ := bind_eq_ok.mp prepared
    obtain ⟨columns, made, prepared⟩ := bind_eq_ok.mp prepared
    obtain rfl := Except.ok.inj prepared
    rw [mapError_eq_ok] at keyFound checked made
    exact ⟨documentType, described, rfl, ⟨forM_eq_ok.mp checked, made⟩, keyFound⟩
  | _ => exact absurd prepared (by simp)

/-! ### Storing and removing -/

variable {store next : Store} {typeName key : String} {body : Json} {fresh : Uuid}
  {document : Document}

theorem put_of_prepare (prepared : store.prepare typeName body fresh = .ok document) :
    store.put typeName body fresh = (.ok document, store.write document) := by
  rw [put, prepared]

/-- A document that can be prepared is written, and otherwise nothing is. -/
theorem put_cases (store : Store) (typeName : String) (body : Json) (fresh : Uuid) :
    (∃ document, store.prepare typeName body fresh = .ok document ∧
        store.put typeName body fresh = (.ok document, store.write document)) ∨
      ∃ error, store.prepare typeName body fresh = .error error ∧
        store.put typeName body fresh = (.error error, store) := by
  cases prepared : store.prepare typeName body fresh with
  | ok document => exact .inl ⟨document, rfl, put_of_prepare prepared⟩
  | error error => exact .inr ⟨error, rfl, by rw [put, prepared]⟩

/-- A document is stored if it can be prepared, and the reason why it is not is the one why it
cannot be. -/
theorem fst_put (store : Store) (typeName : String) (body : Json) (fresh : Uuid) :
    (store.put typeName body fresh).1 = store.prepare typeName body fresh := by
  rcases put_cases store typeName body fresh with ⟨_, prepared, put⟩ | ⟨_, prepared, put⟩
  · rw [prepared, put]
  · rw [prepared, put]

theorem put_eq_ok (stored : store.put typeName body fresh = (.ok document, next)) :
    store.prepare typeName body fresh = .ok document ∧ next = store.write document := by
  have prepared : store.prepare typeName body fresh = .ok document := by
    rw [← fst_put, stored]
  exact ⟨prepared, congrArg Prod.snd (stored.symm.trans (put_of_prepare prepared))⟩

/-- A document that is not stored leaves the store as it is. -/
theorem snd_put_of_error {error : StoreError}
    (failed : (store.put typeName body fresh).1 = .error error) :
    (store.put typeName body fresh).2 = store := by
  rcases put_cases store typeName body fresh with ⟨document, _, put⟩ | ⟨_, _, put⟩
  · rw [put] at failed
    exact absurd failed nofun
  · rw [put]

theorem exists_put_of_isOk (fine : (store.put typeName body fresh).1.isOk = true) :
    ∃ document next, store.put typeName body fresh = (.ok document, next) := by
  obtain ⟨document, stored⟩ := exists_of_isOk fine
  exact ⟨document, _, Prod.ext stored rfl⟩

/-- What is seen of a document where it is stored is seen of the document that is there then. -/
theorem exists_put_of_map {Image : Type} {view : Document → Image} {seen : Image}
    (known : (store.put typeName body fresh).1.toOption.map view = some seen) :
    ∃ document next, store.put typeName body fresh = (.ok document, next) ∧
      view document = seen := by
  obtain ⟨document, stored, same⟩ := Option.map_eq_some_iff.mp known
  exact ⟨document, _, Prod.ext (toOption_eq_some.mp stored) rfl, same⟩

/-- A removal takes documents away and touches nothing else. -/
theorem snd_delete (store : Store) (typeName key : String) :
    (store.delete typeName key).2 =
      { store with
        documents := store.documents.filter fun document => !holds typeName key document } := rfl

/-- Where there is no document to remove, none is taken away. -/
theorem snd_delete_of_error {error : StoreError}
    (failed : (store.delete typeName key).1 = .error error) :
    (store.delete typeName key).2 = store := by
  have none : ¬store.documents.any (holds typeName key) = true := by
    intro found
    rw [delete, if_pos found] at failed
    exact absurd failed nofun
  have kept : (store.documents.filter fun document => !holds typeName key document) =
      store.documents := by
    refine List.filter_eq_self.mpr fun document inside => ?_
    rw [Bool.not_eq_true', ← Bool.not_eq_true]
    exact fun held => none (List.any_eq_true.mpr ⟨document, inside, held⟩)
  rw [snd_delete, kept]

/-! ### Changes -/

/-- What may be done to a store. -/
inductive Change where
  /-- To store a JSON value as a document, given a fresh key. -/
  | put (typeName : String) (body : Json) (fresh : Uuid)
  /-- To remove the document under a key. -/
  | delete (typeName key : String)

/-- A store after a change. -/
def after (store : Store) : Change → Store
  | .put typeName body fresh => (store.put typeName body fresh).2
  | .delete typeName key => (store.delete typeName key).2

/-- A store after a sequence of changes. -/
def afterAll (store : Store) (changes : List Change) : Store :=
  changes.foldl after store

/-- Every document in a store is as its type leaves it. -/
def Sound (store : Store) : Prop :=
  ∀ document ∈ store.documents, ∃ documentType,
    store.planner.catalog.describe document.typeName = .ok documentType ∧
      documentType.Stores document

/-- A change writes a document that can be stored, or takes documents away, if it does anything. -/
theorem after_cases (store : Store) (change : Change) :
    (∃ typeName body fresh document,
        store.put typeName body fresh = (.ok document, store.write document) ∧
          store.after change = store.write document) ∨
      ∃ documents, documents.Sublist store.documents ∧
        store.after change = { store with documents := documents } := by
  cases change with
  | put typeName body fresh =>
    rw [after]
    rcases put_cases store typeName body fresh with ⟨document, _, put⟩ | ⟨_, _, put⟩
    · exact .inl ⟨typeName, body, fresh, document, put, by rw [put]⟩
    · exact .inr ⟨store.documents, List.Sublist.refl _, by rw [put]⟩
  | delete typeName key => exact .inr ⟨_, List.filter_sublist, snd_delete store typeName key⟩

theorem planner_after (store : Store) (change : Change) :
    (store.after change).planner = store.planner := by
  rcases after_cases store change with ⟨_, _, _, _, _, same⟩ | ⟨_, _, same⟩
  · rw [same]
    rfl
  · rw [same]

/-- One change keeps every document as its type leaves it. -/
theorem Sound.after (sound : store.Sound) (change : Change) : (store.after change).Sound := by
  intro document member
  rw [planner_after]
  rcases after_cases store change with ⟨name, body, fresh, written, put, same⟩ | ⟨_, fewer, same⟩
  · rw [same] at member
    rcases List.mem_append.mp member with before | here
    · exact sound document (List.mem_filter.mp before).1
    · obtain ⟨documentType, described, named, stores, _⟩ := prepare_sound (put_eq_ok put).1
      rw [List.mem_singleton.mp here]
      exact ⟨documentType, named ▸ described, stores⟩
  · rw [same] at member
    exact sound document (fewer.subset member)

/-- Whatever changes are made, the planner of a store stays the same. -/
theorem planner_afterAll (store : Store) (changes : List Change) :
    (store.afterAll changes).planner = store.planner := by
  induction changes generalizing store with
  | nil => rfl
  | cons change rest inductionHypothesis =>
    exact (inductionHypothesis (store.after change)).trans (planner_after store change)

/-- Whatever changes are made, every document stays as its type leaves it. -/
theorem Sound.afterAll {store : Store} (sound : store.Sound) (changes : List Change) :
    (store.afterAll changes).Sound := by
  induction changes generalizing store with
  | nil => exact sound
  | cons change rest inductionHypothesis => exact inductionHypothesis (sound.after change)

/-- A document in a store that changes have led to is as its type leaves it. -/
theorem sound_afterAll_empty (planner : Planner) (changes : List Change) :
    ∀ document ∈ ((empty planner).afterAll changes).documents, ∃ documentType,
      planner.catalog.describe document.typeName = .ok documentType ∧
        documentType.Stores document := by
  intro document member
  have start : (empty planner).Sound := fun _ inside => absurd inside List.not_mem_nil
  obtain ⟨documentType, described, stores⟩ := start.afterAll changes document member
  rw [planner_afterAll] at described
  exact ⟨documentType, described, stores⟩

end Store

/-! ### Meetings -/

/-- A meeting that starts at the instant that a text writes. -/
def Json.meeting (start : String) : Json :=
  .record [("Id", .text "1"), ("Start", .text start)]

/-- To store a meeting. -/
def Store.Change.meeting (start : String) : Store.Change :=
  .put "Meeting" (.meeting start) ⟨0⟩

/-- A store of meetings that is empty. -/
def Store.ofMeetings (start : Storage) (passed : (DocumentType.meeting start).check = .ok ()) :
    Store :=
  empty ⟨.meetings start passed, .standard⟩

theorem Store.describe_ofMeetings (start : Storage)
    (passed : (DocumentType.meeting start).check = .ok ()) :
    (ofMeetings start passed).planner.catalog.describe "Meeting" = .ok (.meeting start) := rfl

end Sieve
