/-
This file proves that it does not matter where fields are stored. What a predicate
means of a document depends on the paths and kinds of the fields alone, and a filter
evaluates to this meaning on the row of a document that has been stored. Two catalogs
that keep the same fields in different places therefore give the same answers.
-/

import Sieve.Proofs.Filter.Meaning

namespace Sieve

open Calendar Outcome

/-! ### Stored documents -/

/-- Which kinds the fields at paths have does not depend on where they are stored. -/
theorem DocumentType.kind?_congr {left right : DocumentType}
    (same : left.fields.map (fun field => (field.path, field.kind)) =
      right.fields.map fun field => (field.path, field.kind)) : left.kind? = right.kind? := by
  have listed (documentType : DocumentType) (path : String) :
      documentType.kind? path =
        ((documentType.fields.map fun field => (field.path, field.kind)).find?
          fun entry => entry.1 == path).map Prod.snd := by
    rw [kind?, field?, List.find?_map, Option.map_map]
    rfl
  funext path
  rw [listed, listed, same]

/-- A document that has a key is stored under it as it is. -/
theorem DocumentType.keyOf_of_lookup? {documentType : DocumentType} {body key : Json}
    (found : body.lookup? (pointerOfPath documentType.keyPath) = some key) (present : key ≠ .null)
    (fresh : Uuid) : documentType.keyOf body fresh = .ok (keyText key, body) := by
  rw [keyOf, found]
  cases key <;> first | exact absurd rfl present | rfl

/-- A document that is stored with a key is stored as it is. -/
theorem Store.body_of_put {store next : Store} {typeName : String} {body key : Json} {fresh : Uuid}
    {document : Document} {documentType : DocumentType}
    (described : store.planner.catalog.describe typeName = .ok documentType)
    (found : body.lookup? (pointerOfPath documentType.keyPath) = some key) (present : key ≠ .null)
    (stored : store.put typeName body fresh = (.ok document, next)) : document.body = body := by
  obtain ⟨other, same, _, _, keyed⟩ := prepare_sound (put_eq_ok stored).1
  obtain rfl := Except.ok.inj (described.symm.trans same)
  rw [DocumentType.keyOf_of_lookup? found present] at keyed
  exact (Prod.mk.inj (Except.ok.inj keyed)).2.symm

/-- On the row of a document that has been stored, a filter evaluates to what its predicate means
of the document. -/
theorem Store.evaluate_put {store next : Store} {typeName : String} {body key : Json}
    {fresh : Uuid} {document : Document} {documentType : DocumentType} {predicate : Predicate}
    {filter : Filter} (described : store.planner.catalog.describe typeName = .ok documentType)
    (found : body.lookup? (pointerOfPath documentType.keyPath) = some key) (present : key ≠ .null)
    (utc : ∀ field ∈ documentType.fields, field.InUtc body)
    (stored : store.put typeName body fresh = (.ok document, next))
    (compiled : store.planner.catalog.compile typeName predicate = .ok filter) :
    filter.evaluate document.row = predicate.meaning documentType.kind? body := by
  obtain ⟨other, same, _, stores, keyed⟩ := prepare_sound (put_eq_ok stored).1
  obtain rfl := Except.ok.inj (described.symm.trans same)
  rw [DocumentType.keyOf_of_lookup? found present] at keyed
  obtain ⟨_, kept⟩ := Prod.mk.inj (Except.ok.inj keyed)
  have holds : ∀ field ∈ documentType.fields,
      field.HeldBy document.row ∧ field.InUtc document.row.body := by
    intro field member
    refine ⟨Field.heldBy_of_stores (Catalog.valid_of_describe described) stores member, ?_⟩
    show field.InUtc document.body
    rw [← kept]
    exact utc field member
  rw [Catalog.evaluate_compile described holds predicate compiled]
  show predicate.meaning documentType.kind? document.body = _
  rw [← kept]

/-! ### Two catalogs -/

/-- It does not matter where fields are stored. Let two types of documents have the same key and
the same fields, and let a document with a key and with its instants in UTC be stored under both.
Then whatever a predicate is compiled to under the one has, on the row stored under the one, the
truth or the error that it has under the other. -/
theorem Store.evaluate_put_eq {left right leftNext rightNext : Store} {typeName : String}
    {leftType rightType : DocumentType} {body key : Json} {leftFresh rightFresh : Uuid}
    {leftDocument rightDocument : Document} {predicate : Predicate}
    {leftFilter rightFilter : Filter}
    (leftDescribed : left.planner.catalog.describe typeName = .ok leftType)
    (rightDescribed : right.planner.catalog.describe typeName = .ok rightType)
    (sameKey : leftType.keyPath = rightType.keyPath)
    (sameFields : leftType.fields.map (fun field => (field.path, field.kind)) =
      rightType.fields.map fun field => (field.path, field.kind))
    (found : body.lookup? (pointerOfPath leftType.keyPath) = some key) (present : key ≠ .null)
    (utc : ∀ field ∈ leftType.fields, field.InUtc body)
    (leftStored : left.put typeName body leftFresh = (.ok leftDocument, leftNext))
    (rightStored : right.put typeName body rightFresh = (.ok rightDocument, rightNext))
    (leftCompiled : left.planner.catalog.compile typeName predicate = .ok leftFilter)
    (rightCompiled : right.planner.catalog.compile typeName predicate = .ok rightFilter) :
    leftFilter.evaluate leftDocument.row = rightFilter.evaluate rightDocument.row := by
  have rightUtc : ∀ field ∈ rightType.fields, field.InUtc body := by
    intro field member
    have listed : (field.path, field.kind) ∈
        leftType.fields.map fun field => (field.path, field.kind) :=
      sameFields ▸ List.mem_map_of_mem member
    obtain ⟨other, inside, same⟩ := List.mem_map.mp listed
    obtain ⟨samePath, sameKind⟩ := Prod.mk.inj same
    have shown := utc other inside
    rw [Field.InUtc, Field.text] at shown ⊢
    rwa [samePath, sameKind] at shown
  rw [evaluate_put leftDescribed found present utc leftStored leftCompiled,
    evaluate_put rightDescribed (sameKey ▸ found) present rightUtc rightStored rightCompiled,
    DocumentType.kind?_congr sameFields]

/-- A meeting whose start is kept in a column is found like one whose start is not. -/
theorem Store.evaluate_put_meeting :
    ∃ leftFilter rightFilter leftDocument rightDocument leftNext rightNext,
      ((ofMeetings .extracted rfl).put "Meeting" (.meeting "2026-03-01T14:00:00Z") ⟨0⟩ =
          (.ok leftDocument, leftNext) ∧
        (ofMeetings (.duplicated "start" .timestampTz) rfl).put "Meeting"
            (.meeting "2026-03-01T14:00:00Z") ⟨0⟩ = (.ok rightDocument, rightNext)) ∧
      (ofMeetings .extracted rfl).planner.catalog.compile "Meeting"
          (.all [.ofField "Start" .lt (.utc ⟨⟨0, 0⟩⟩), .ofFields "Start" .le "Start"]) =
        .ok leftFilter ∧
      (ofMeetings (.duplicated "start" .timestampTz) rfl).planner.catalog.compile "Meeting"
          (.all [.ofField "Start" .lt (.utc ⟨⟨0, 0⟩⟩), .ofFields "Start" .le "Start"]) =
        .ok rightFilter ∧
      leftFilter.evaluate leftDocument.row = rightFilter.evaluate rightDocument.row := by
  have read : ZonedTime.ofText? (Text.trim "2026-03-01T14:00:00Z".toList) =
      some ⟨⟨⟨1772373600, 0⟩⟩, 0⟩ := by
    decide +kernel
  have utc : ∀ field ∈ (DocumentType.meeting .extracted).fields,
      field.InUtc (.meeting "2026-03-01T14:00:00Z") := by
    refine List.forall_mem_cons.mpr ⟨fun zoned => absurd zoned (by decide),
      List.forall_mem_singleton.mpr fun _ content found time written => ?_⟩
    have start : (Field.mk "Start" .utc .extracted).text (.meeting "2026-03-01T14:00:00Z") =
        .text "2026-03-01T14:00:00Z" := by
      decide +kernel
    rw [← Datum.text.inj (start.symm.trans found), read] at written
    rw [← Option.some.inj written]
  have key : (Json.meeting "2026-03-01T14:00:00Z").lookup? (pointerOfPath "Id") =
      some (.text "1") := by
    rfl
  obtain ⟨leftDocument, leftNext, leftStored⟩ := exists_put_of_isOk
    (show ((ofMeetings .extracted rfl).put "Meeting"
      (.meeting "2026-03-01T14:00:00Z") ⟨0⟩).1.isOk = true by decide +kernel)
  obtain ⟨rightDocument, rightNext, rightStored⟩ := exists_put_of_isOk
    (show ((ofMeetings (.duplicated "start" .timestampTz) rfl).put "Meeting"
      (.meeting "2026-03-01T14:00:00Z") ⟨0⟩).1.isOk = true by decide +kernel)
  obtain ⟨leftFilter, leftCompiled⟩ := exists_of_isOk
    (show ((ofMeetings .extracted rfl).planner.catalog.compile "Meeting"
      (.all [.ofField "Start" .lt (.utc ⟨⟨0, 0⟩⟩), .ofFields "Start" .le "Start"])).isOk = true from
      rfl)
  obtain ⟨rightFilter, rightCompiled⟩ := exists_of_isOk
    (show ((ofMeetings (.duplicated "start" .timestampTz) rfl).planner.catalog.compile "Meeting"
      (.all [.ofField "Start" .lt (.utc ⟨⟨0, 0⟩⟩), .ofFields "Start" .le "Start"])).isOk = true from
      rfl)
  exact ⟨leftFilter, rightFilter, leftDocument, rightDocument, leftNext, rightNext,
    ⟨leftStored, rightStored⟩, leftCompiled, rightCompiled,
    evaluate_put_eq (describe_ofMeetings .extracted rfl)
      (describe_ofMeetings (.duplicated "start" .timestampTz) rfl) rfl rfl key (by simp) utc
      leftStored rightStored leftCompiled rightCompiled⟩

end Sieve
