/-
This file proves in which sense keys are unique. In every store that changes lead to, no
two documents of a type have one key, and where the path of the key is unmarked the key
is the text that filters read. So documents are told apart by the spelling of their keys:
two spellings of one identifier are two documents, which stand beside each other. Only
where the text is itself the value, in keys that are texts, does a query for one key find
at most one document.
-/

import Sieve.Proofs.Store.Key

namespace Sieve

open Outcome

/-- The type of a document and its key. -/
def Document.place (document : Document) : String × String :=
  (document.typeName, document.key)

namespace Store

/-! ### What every change keeps -/

/-- A store in which every document stands alone under its type and its key, and under the key that
filters read from it. -/
structure Keyed (store : Store) : Prop where
  /-- No two documents of a type have one key. -/
  distinct : (store.documents.map Document.place).Nodup
  /-- Where a key is unmarked it is the text that filters read. -/
  read : ∀ document ∈ store.documents, ∀ documentType,
    store.planner.catalog.describe document.typeName = .ok documentType →
      documentType.KeyUnmarked →
      documentType.keySource.evaluate document.row = .ok (.text document.key)

variable {store : Store} {typeName : String} {documentType : DocumentType}

theorem holds_iff {key : String} {document : Document} :
    holds typeName key document = true ↔ document.place = (typeName, key) := by
  rw [holds, Document.place, Bool.and_eq_true, beq_iff_eq, beq_iff_eq, Prod.mk.injEq]

theorem not_holds_iff {key : String} {document : Document} :
    (!holds typeName key document) = true ↔ document.place ≠ (typeName, key) := by
  rw [Bool.not_eq_true', ← Bool.not_eq_true, holds_iff]

/-- A write leaves the documents of other types and under other keys, and puts its own there. -/
theorem mem_documents_write {found document : Document} :
    found ∈ (store.write document).documents ↔
      found ∈ store.documents ∧ found.place ≠ document.place ∨ found = document := by
  rw [documents_write, List.mem_append, List.mem_filter, List.mem_singleton, not_holds_iff]
  exact Iff.rfl

/-- A document that is written takes the place of the one that was there. -/
theorem nodup_place_write (distinct : (store.documents.map Document.place).Nodup)
    (document : Document) : ((store.write document).documents.map Document.place).Nodup := by
  have others : ((store.documents.filter fun other =>
      !holds document.typeName document.key other).map Document.place).Nodup :=
    distinct.sublist (List.filter_sublist.map _)
  rw [documents_write, List.map_append, List.nodup_append]
  refine ⟨others, List.nodup_singleton _, fun place inside other same => ?_⟩
  obtain ⟨found, left, rfl⟩ := List.mem_map.mp inside
  rw [List.mem_singleton.mp same]
  exact not_holds_iff.mp (List.mem_filter.mp left).2

/-- One change keeps every document under a key of its own. -/
theorem Keyed.after (keyed : store.Keyed) (change : Change) : (store.after change).Keyed := by
  have planner := planner_after store change
  rcases after_cases store change with
    ⟨name, body, fresh, document, stored, same⟩ | ⟨_, fewer, same⟩
  · refine ⟨same ▸ nodup_place_write keyed.distinct document, ?_⟩
    intro found inside other described unmarked
    rw [planner] at described
    rw [same] at inside
    rcases mem_documents_write.mp inside with ⟨before, _⟩ | rfl
    · exact keyed.read found before other described unmarked
    · obtain ⟨_, _, named, _⟩ := prepare_sound (put_eq_ok stored).1
      rw [named] at described
      exact evaluate_keySource_of_put described unmarked stored
  · rw [same] at planner ⊢
    refine ⟨keyed.distinct.sublist (fewer.map _), fun found inside other described unmarked => ?_⟩
    rw [planner] at described
    exact keyed.read found (fewer.subset inside) other described unmarked

/-- Whatever changes are made, every document stays under a key of its own. -/
theorem Keyed.afterAll (keyed : store.Keyed) (changes : List Change) :
    (store.afterAll changes).Keyed := by
  induction changes generalizing store with
  | nil => exact keyed
  | cons change rest inductionHypothesis => exact inductionHypothesis (keyed.after change)

theorem keyed_empty (planner : Planner) : (empty planner).Keyed :=
  ⟨List.nodup_nil, fun _ inside => absurd inside List.not_mem_nil⟩

/-! ### Documents with one key -/

theorem Keyed.eq_of_place_eq (keyed : store.Keyed) {left right : Document}
    (leftInside : left ∈ store.documents) (rightInside : right ∈ store.documents)
    (same : left.place = right.place) : left = right :=
  List.inj_on_of_nodup_map keyed.distinct leftInside rightInside same

/-- Of one place there is one document, wherever it stands among the others. -/
theorem Keyed.filter_not_holds (keyed : store.Keyed) {before after : List Document}
    {stored : Document} (split : store.documents = before ++ stored :: after) :
    (store.documents.filter fun other => !holds stored.typeName stored.key other) =
      before ++ after := by
  have distinct := keyed.distinct
  rw [split, List.map_append, List.map_cons, List.nodup_middle, List.nodup_cons,
    ← List.map_append] at distinct
  have kept : ∀ other ∈ before ++ after, (!holds stored.typeName stored.key other) = true := by
    intro other inside
    exact not_holds_iff.mpr fun same => distinct.1 (List.mem_map.mpr ⟨other, inside, same⟩)
  have gone : holds stored.typeName stored.key stored = true := holds_iff.mpr rfl
  rw [split, List.filter_append, List.filter_cons_of_neg (by simp [gone]), ← List.filter_append]
  exact List.filter_eq_self.mpr kept

/-- A document of which filters read the key of a stored one takes its place. -/
theorem Keyed.documents_put (keyed : store.Keyed)
    (described : store.planner.catalog.describe typeName = .ok documentType)
    (unmarked : documentType.KeyUnmarked) {before after : List Document} {stored : Document}
    (split : store.documents = before ++ stored :: after) (named : stored.typeName = typeName)
    {body : Json} {fresh : Uuid} {document : Document} {next : Store}
    (put : store.put typeName body fresh = (.ok document, next))
    (same : documentType.keySource.evaluate ⟨body, []⟩ =
      documentType.keySource.evaluate stored.row) :
    next.documents = before ++ after ++ [document] := by
  have inside : stored ∈ store.documents := by
    rw [split]
    exact List.mem_append_right before List.mem_cons_self
  have read := keyed.read stored inside documentType (named ▸ described) unmarked
  obtain ⟨typed, _, found⟩ := keyOf_of_put described put
  obtain ⟨_, rfl⟩ := put_eq_ok put
  have key : document.key = stored.key := by
    rcases (DocumentType.keyOf_eq_ok unmarked found).2 with kept | ⟨_, made⟩
    · have written := evaluate_keySource_of_put described unmarked put
      have bodies : documentType.keySource.evaluate document.row =
          documentType.keySource.evaluate ⟨body, []⟩ := by
        rw [unmarked.evaluate_keySource, unmarked.evaluate_keySource, ← kept]
        rfl
      rw [bodies, same, read] at written
      exact (Datum.text.inj (Except.ok.inj written)).symm
    · rw [made.missing, read] at same
      exact absurd (Except.ok.inj same) nofun
  rw [documents_write, typed, ← named, key, keyed.filter_not_holds split]

/-- A document of which filters read another key than of a stored one stands beside it. -/
theorem Keyed.mem_documents_put_other (keyed : store.Keyed)
    (described : store.planner.catalog.describe typeName = .ok documentType)
    (unmarked : documentType.KeyUnmarked) {stored : Document} (inside : stored ∈ store.documents)
    (named : stored.typeName = typeName) {body : Json} {fresh : Uuid} {document : Document}
    {next : Store} (put : store.put typeName body fresh = (.ok document, next))
    (other : documentType.keySource.evaluate document.row ≠
      documentType.keySource.evaluate stored.row) :
    stored ∈ next.documents ∧ document ∈ next.documents := by
  have read := keyed.read stored inside documentType (named ▸ described) unmarked
  have written := evaluate_keySource_of_put described unmarked put
  obtain ⟨_, rfl⟩ := put_eq_ok put
  refine ⟨mem_documents_write.mpr (.inl ⟨inside, fun same => other ?_⟩),
    mem_documents_write.mpr (.inr rfl)⟩
  rw [written, read, (Prod.mk.inj same).2]

end Store

/-! ### Queries for a key -/

/-- A text equals another value where this is the same text. -/
theorem Comparison.eq_truth_text {content : String} {value : Datum}
    (equal : Comparison.eq.truth (.text content) value = some true) : value = .text content := by
  cases value with
  | text other =>
    have same : compareOfLessAndEq content other = .eq := by
      simpa [truth, Datum.compare?, holds] using equal
    rw [(Datum.compareOfLessAndEq_eq_eq_iff content other).mp same]
  | _ => exact absurd equal (by simp [truth, Datum.compare?])

theorem Filter.evaluate_of_selects {filter : Filter} {row : Row}
    (selected : filter.selects row = true) : filter.evaluate row = .ok (some true) := by
  rw [selects] at selected
  split at selected
  · assumption
  · exact absurd selected Bool.false_ne_true

namespace Store

variable {store : Store} {typeName : String} {documentType : DocumentType}

theorem query_eq_ok {predicate? : Option Predicate} {documents : List Document}
    (found : store.query typeName predicate? = .ok documents) :
    ∃ filter, store.planner.compile typeName predicate? = .ok filter ∧
      documents = (store.all typeName).filter fun document => filter.selects document.row := by
  obtain ⟨filter, compiled, found⟩ := bind_eq_ok.mp found
  obtain ⟨_, _, found⟩ := bind_eq_ok.mp found
  rw [mapError_eq_ok] at compiled found
  rw [matching_eq] at found
  split at found
  · exact absurd found nofun
  · exact ⟨filter, compiled, (Except.ok.inj found).symm⟩

/-- A key that is a text is read from a stored document as it is stored. -/
theorem Keyed.evaluate_access (keyed : store.Keyed) (sound : store.Sound)
    (described : store.planner.catalog.describe typeName = .ok documentType)
    (unmarked : documentType.KeyUnmarked) {field : Field} (isKey : documentType.key? = some field)
    (texts : field.kind = .string) {document : Document} (inside : document ∈ store.documents)
    (named : document.typeName = typeName) :
    field.access.source.evaluate document.row = .ok (.text document.key) := by
  obtain ⟨member, path⟩ := DocumentType.mem_of_field? isKey
  obtain ⟨other, same, stores⟩ := sound document inside
  rw [named, described] at same
  obtain rfl := Except.ok.inj same
  have held := Field.heldBy_of_stores (Catalog.valid_of_describe described) stores member
  have source : field.textSource = documentType.keySource := by
    rw [Field.textSource, path, DocumentType.keySource]
  rw [Field.evaluate_access_of_string texts held, ← Field.evaluate_textSource, source]
  exact keyed.read document inside documentType (named ▸ described) unmarked

/-- The filter for one key is true of documents with one text of a key alone. -/
theorem Keyed.exists_key_of_selects (keyed : store.Keyed) (sound : store.Sound)
    (described : store.planner.catalog.describe typeName = .ok documentType)
    (unmarked : documentType.KeyUnmarked)
    (texts : documentType.key?.map Field.kind = some .string) {value : Literal} {filter : Filter}
    (compiled : store.planner.compile typeName (some (.equal documentType.keyPath value)) =
      .ok filter) :
    ∃ content, ∀ document ∈ store.documents, document.typeName = typeName →
      filter.selects document.row = true → document.key = content := by
  obtain ⟨field, isKey, texts⟩ := Option.map_eq_some_iff.mp texts
  obtain ⟨_, _, compiled⟩ := bind_eq_ok.mp compiled
  have accessed {operator : Operator} {access : Access}
      (read : store.planner.catalog.literalAccess typeName documentType.keyPath operator =
        .ok access) : access = field.access := by
    obtain ⟨found, resolved, read⟩ := Catalog.literalAccess_eq_ok.mp read
    obtain ⟨other, same, here⟩ := Catalog.resolve_eq_ok.mp resolved
    obtain rfl := Except.ok.inj (described.symm.trans same)
    obtain rfl := Option.some.inj (isKey.symm.trans here)
    exact (Field.literalAccess_eq_ok.mp read).2.2
  have done := Catalog.compileComparison_eq_ok.mp compiled
  split at done
  · obtain ⟨access, read, rfl⟩ := done
    obtain rfl := accessed read
    refine ⟨"", fun document inside named selected => ?_⟩
    have truth := Filter.evaluate_of_selects selected
    rw [Filter.evaluate, keyed.evaluate_access sound described unmarked isKey texts inside named]
      at truth
    exact absurd (Option.some.inj (Except.ok.inj truth)) Bool.false_ne_true
  · obtain ⟨access, read, parameter, bound, rfl⟩ := done
    obtain rfl := accessed read
    have equal : ∀ document ∈ store.documents, document.typeName = typeName →
        (Filter.compare field.access .eq parameter).selects document.row = true →
        parameter.value = .text document.key := by
      intro document inside named selected
      have truth := Filter.evaluate_of_selects selected
      rw [Filter.evaluate, keyed.evaluate_access sound described unmarked isKey texts inside named]
        at truth
      exact Comparison.eq_truth_text (Except.ok.inj truth)
    cases known : parameter.value with
    | text content =>
      refine ⟨content, fun document inside named selected => ?_⟩
      exact (Datum.text.inj (known.symm.trans (equal document inside named selected))).symm
    | _ =>
      refine ⟨"", fun document inside named selected => ?_⟩
      exact absurd (known.symm.trans (equal document inside named selected)) nofun

/-- A query for a key that is a text finds at most one document. -/
theorem Keyed.length_le_one_of_query (keyed : store.Keyed) (sound : store.Sound)
    (described : store.planner.catalog.describe typeName = .ok documentType)
    (unmarked : documentType.KeyUnmarked)
    (texts : documentType.key?.map Field.kind = some .string) {value : Literal}
    {documents : List Document}
    (found : store.query typeName (some (.equal documentType.keyPath value)) = .ok documents) :
    documents.length ≤ 1 := by
  obtain ⟨filter, compiled, rfl⟩ := query_eq_ok found
  obtain ⟨content, known⟩ := keyed.exists_key_of_selects sound described unmarked texts compiled
  set selected := (store.all typeName).filter fun document => filter.selects document.row
  have fewer : selected.Sublist store.documents := List.filter_sublist.trans List.filter_sublist
  have one : selected.map Document.place = List.replicate selected.length (typeName, content) := by
    refine List.eq_replicate_iff.mpr ⟨List.length_map _, fun place inside => ?_⟩
    obtain ⟨document, here, rfl⟩ := List.mem_map.mp inside
    obtain ⟨ofType, selects⟩ := List.mem_filter.mp here
    have named : document.typeName = typeName := beq_iff_eq.mp (List.mem_filter.mp ofType).2
    rw [Document.place, named, known document (fewer.subset here) named selects]
  have distinct := keyed.distinct.sublist (fewer.map Document.place)
  rw [one] at distinct
  exact List.nodup_replicate.mp distinct

/-- In which sense keys are unique. In every store that changes lead to, no two documents of a type
have one key. Where the path of the key is unmarked, filters read from each document the key that it
is stored under; so two documents from which they read one text are one document, a document with
the key of a stored one takes its place, one with another key, such as another spelling of the same
value, stands beside it, and a query for a key that is a text finds at most one document. -/
theorem keys_distinct (planner : Planner) (changes : List Change) :
    let store := (empty planner).afterAll changes
    (store.documents.map Document.place).Nodup ∧
      ∀ typeName documentType, planner.catalog.describe typeName = .ok documentType →
        documentType.KeyUnmarked →
        (∀ document ∈ store.documents, document.typeName = typeName →
          documentType.keySource.evaluate document.row = .ok (.text document.key)) ∧
        (∀ left ∈ store.documents, ∀ right ∈ store.documents, left.typeName = typeName →
          right.typeName = typeName →
          documentType.keySource.evaluate left.row = documentType.keySource.evaluate right.row →
          left = right) ∧
        (∀ before stored after, store.documents = before ++ stored :: after →
          stored.typeName = typeName → ∀ body fresh document next,
          store.put typeName body fresh = (.ok document, next) →
          documentType.keySource.evaluate ⟨body, []⟩ =
            documentType.keySource.evaluate stored.row →
          next.documents = before ++ after ++ [document]) ∧
        (∀ stored ∈ store.documents, stored.typeName = typeName → ∀ body fresh document next,
          store.put typeName body fresh = (.ok document, next) →
          documentType.keySource.evaluate document.row ≠
            documentType.keySource.evaluate stored.row →
          stored ∈ next.documents ∧ document ∈ next.documents) ∧
        (documentType.key?.map Field.kind = some .string → ∀ value documents,
          store.query typeName (some (.equal documentType.keyPath value)) = .ok documents →
          documents.length ≤ 1) := by
  intro store
  have keyed : store.Keyed := (keyed_empty planner).afterAll changes
  have start : (empty planner).Sound := fun _ inside => absurd inside List.not_mem_nil
  have sound : store.Sound := start.afterAll changes
  have planners : store.planner = planner := planner_afterAll _ changes
  refine ⟨keyed.distinct, fun typeName documentType described unmarked => ?_⟩
  rw [← planners] at described
  have read : ∀ document ∈ store.documents, document.typeName = typeName →
      documentType.keySource.evaluate document.row = .ok (.text document.key) := by
    intro document inside named
    exact keyed.read document inside documentType (named ▸ described) unmarked
  refine ⟨read, ?_, ?_, ?_, ?_⟩
  · intro left leftInside right rightInside leftNamed rightNamed same
    rw [read left leftInside leftNamed, read right rightInside rightNamed] at same
    have key : left.key = right.key := Datum.text.inj (Except.ok.inj same)
    exact keyed.eq_of_place_eq leftInside rightInside
      (Prod.ext (leftNamed.trans rightNamed.symm) key)
  · intro before stored after split named body fresh document next put same
    exact keyed.documents_put described unmarked split named put same
  · intro stored inside named body fresh document next put other
    exact keyed.mem_documents_put_other described unmarked inside named put other
  · intro texts value documents found
    exact keyed.length_le_one_of_query sound described unmarked texts found

/-- A meeting with the key of another one takes its place, and one with another key stands beside
it. -/
theorem keys_distinct_meetings :
    ∃ stored,
      ((ofMeetings .extracted rfl).afterAll [.meeting "2026-03-01T14:00:00Z"]).documents =
          [stored] ∧
      (∃ document next,
        ((ofMeetings .extracted rfl).afterAll [.meeting "2026-03-01T14:00:00Z"]).put "Meeting"
            (.meeting "2026-03-02T14:00:00Z") ⟨0⟩ = (.ok document, next) ∧
          next.documents = [document]) ∧
      ∃ document next,
        ((ofMeetings .extracted rfl).afterAll [.meeting "2026-03-01T14:00:00Z"]).put "Meeting"
            (.record [("Id", .text "2")]) ⟨0⟩ = (.ok document, next) ∧
          stored ∈ next.documents ∧ document ∈ next.documents := by
  have listed : ((ofMeetings .extracted rfl).afterAll
      [.meeting "2026-03-01T14:00:00Z"]).documents.map (fun document => (document.typeName,
        ((DocumentType.meeting .extracted).keySource.evaluate document.row).toOption)) =
      [("Meeting", some (.text "1"))] := by
    decide +kernel
  obtain ⟨stored, alone, known⟩ := List.map_eq_singleton_iff.mp listed
  obtain ⟨named, read⟩ := Prod.mk.inj known
  obtain ⟨_, types⟩ := keys_distinct ⟨.meetings .extracted rfl, .standard⟩
    [.meeting "2026-03-01T14:00:00Z"]
  obtain ⟨_, _, replaces, beside, _⟩ := types "Meeting" (.meeting .extracted) rfl
    (keyUnmarked_meeting .extracted)
  refine ⟨stored, alone, ?_, ?_⟩
  · have fine : (((ofMeetings .extracted rfl).afterAll [.meeting "2026-03-01T14:00:00Z"]).put
        "Meeting" (.meeting "2026-03-02T14:00:00Z") ⟨0⟩).1.isOk = true := by
      decide +kernel
    obtain ⟨document, next, put⟩ := exists_put_of_isOk fine
    have same : (DocumentType.meeting .extracted).keySource.evaluate
        ⟨.meeting "2026-03-02T14:00:00Z", []⟩ = .ok (.text "1") := by
      refine toOption_eq_some.mp ?_
      decide +kernel
    exact ⟨document, next, put, replaces [] stored [] alone named _ _ _ _ put
      (same.trans (toOption_eq_some.mp read).symm)⟩
  · have shown : (((ofMeetings .extracted rfl).afterAll [.meeting "2026-03-01T14:00:00Z"]).put
        "Meeting" (.record [("Id", .text "2")]) ⟨0⟩).1.toOption.map (fun document =>
          ((DocumentType.meeting .extracted).keySource.evaluate document.row).toOption) =
        some (some (.text "2")) := by
      decide +kernel
    obtain ⟨document, next, put, key⟩ := exists_put_of_map shown
    have inside := List.mem_of_mem_head? (congrArg List.head? alone)
    refine ⟨document, next, put, beside stored inside named _ _ _ _ put ?_⟩
    rw [toOption_eq_some.mp key, toOption_eq_some.mp read]
    decide

/-- To store a meeting of which only the key is known. -/
def Change.meetingUnder (key : String) : Change :=
  .put "Meeting" (.record [("Id", .text key)]) ⟨0⟩

/-- The value of a key is not unique: one identifier can be spelled in capitals and in small
letters, and a document is kept for each spelling. -/
theorem not_key_values_distinct :
    ¬∀ (planner : Planner) (changes : List Change) (typeName : String)
      (documentType : DocumentType) (field : Field),
      planner.catalog.describe typeName = .ok documentType → documentType.key? = some field →
      ∀ left ∈ ((empty planner).afterAll changes).documents,
      ∀ right ∈ ((empty planner).afterAll changes).documents,
      left.typeName = typeName → right.typeName = typeName →
      ∀ value, field.value left.body = .ok value → field.value right.body = .ok value →
        left = right := by
  intro claim
  have listed : ((ofMeetings .extracted rfl).afterAll
        [.meetingUnder "0000000A-0000-0000-0000-000000000000",
          .meetingUnder "0000000a-0000-0000-0000-000000000000"]).documents.map
      (fun document => (document.typeName, document.key,
        ((Field.mk "Id" .uuid .extracted).value document.body).toOption)) =
      [("Meeting", "0000000A-0000-0000-0000-000000000000",
          some (.uuid ⟨0xa000000000000000000000000⟩)),
        ("Meeting", "0000000a-0000-0000-0000-000000000000",
          some (.uuid ⟨0xa000000000000000000000000⟩))] := by
    decide +kernel
  obtain ⟨left, leftInside, leftKnown⟩ := List.mem_map.mp (listed ▸ List.mem_cons_self)
  obtain ⟨right, rightInside, rightKnown⟩ :=
    List.mem_map.mp (listed ▸ List.mem_cons_of_mem _ List.mem_cons_self)
  simp only [Prod.mk.injEq, toOption_eq_some] at leftKnown rightKnown
  have same : left = right := claim ⟨.meetings .extracted rfl, .standard⟩ _ "Meeting"
    (.meeting .extracted) ⟨"Id", .uuid, .extracted⟩ rfl rfl left leftInside right rightInside
    leftKnown.1 rightKnown.1 _ leftKnown.2.2 rightKnown.2.2
  have keys := leftKnown.2.1.symm.trans (same ▸ rightKnown.2.1)
  exact absurd keys (by decide)

end Store

end Sieve
