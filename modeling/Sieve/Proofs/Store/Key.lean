/-
This file proves that a document is stored under the key that filters read from it,
and that storing it again changes nothing but its version. The key is looked for by a
pointer that is made of the path without blanks and marks of the root, where filters
take the path as it is; for a path without these the two are one. A key that has been
made up is set where the filters look, so it is found when the document is stored again.
-/

import Sieve.Proofs.Filter.Independence
import Sieve.Proofs.Json.Insert
import Sieve.Proofs.Json.Pointer
import Sieve.Proofs.Store.Log

namespace Sieve

open Outcome

theorem Json.extracted_eq {value : Json} (present : value ≠ .null) :
    value.extracted = .text (keyText value) := by
  cases value <;> first | exact absurd rfl present | rfl

namespace DocumentType

variable {documentType : DocumentType} {body kept : Json} {fresh : Uuid} {key : String}

/-- The text at the path of the key, as filters read it. -/
def keySource (documentType : DocumentType) : Source :=
  .jsonText (pathSegments documentType.keyPath)

/-- A key whose path is taken as it is: no blanks stand around it and no mark of the root before
it. -/
def KeyUnmarked (documentType : DocumentType) : Prop :=
  (Text.trim documentType.keyPath.toList).dropWhile (· == '$') = documentType.keyPath.toList

/-- An unmarked key is looked for where filters read it. -/
theorem KeyUnmarked.pointer (unmarked : documentType.KeyUnmarked) :
    pointerOfPath documentType.keyPath =
      Json.pointerOf (pathSegments documentType.keyPath) := by
  rw [KeyUnmarked] at unmarked
  rw [pointerOfPath, unmarked, String.ofList_toList]

theorem KeyUnmarked.evaluate_keySource (unmarked : documentType.KeyUnmarked) (row : Row) :
    documentType.keySource.evaluate row =
      .ok (((row.body.lookup? (pointerOfPath documentType.keyPath)).map Json.extracted).getD
        .null) := by
  rw [unmarked.pointer, keySource, Source.evaluate]
  cases row.body.lookup? (Json.pointerOf (pathSegments documentType.keyPath)) <;> rfl

/-- Whether a document is another one in which nothing has changed but its key, which was missing
and has been made up. -/
structure KeyMade (documentType : DocumentType) (fresh : Uuid) (body kept : Json) : Prop where
  /-- There was no key. -/
  missing : documentType.keySource.evaluate ⟨body, []⟩ = .ok .null
  /-- Keys of the kind are made up. -/
  kind : documentType.key?.map Field.kind = some .uuid
  /-- The key has been set, and nothing else. -/
  set : Json.SetAt (pathSegments documentType.keyPath) (.text fresh.toText) body kept

theorem makeKey_eq_ok (missing : documentType.keySource.evaluate ⟨body, []⟩ = .ok .null)
    (made : (if documentType.key?.map Field.kind = some .uuid then
        match Json.insertAt documentType.keyPath (.text fresh.toText)
          (pathSegments documentType.keyPath) body with
        | (.ok (), keyed) => .ok (fresh.toText, keyed)
        | (.error fault, _) => .error fault
      else .error (.missingKey documentType.name documentType.keyPath)) =
      (.ok (key, kept) : Except DocumentFault (String × Json))) :
    key = fresh.toText ∧ documentType.KeyMade fresh body kept := by
  split at made
  · rename_i kind
    split at made
    · rename_i keyed inserted
      obtain ⟨rfl, rfl⟩ := Prod.mk.inj (Except.ok.inj made)
      exact ⟨rfl, missing, kind, Json.setAt_of_insertAt inserted⟩
    · exact absurd made nofun
  · exact absurd made nofun

/-- The key of a document is what stands at its path, or has been made up and stands there now. -/
theorem keyOf_eq_ok (unmarked : documentType.KeyUnmarked)
    (keyed : documentType.keyOf body fresh = .ok (key, kept)) :
    (∃ found, kept.lookup? (pointerOfPath documentType.keyPath) = some found ∧ found ≠ .null ∧
        keyText found = key) ∧
      (kept = body ∨ key = fresh.toText ∧ documentType.KeyMade fresh body kept) := by
  have read := unmarked.evaluate_keySource ⟨body, []⟩
  have made (missing : documentType.keySource.evaluate ⟨body, []⟩ = .ok .null)
      (done : key = fresh.toText ∧ documentType.KeyMade fresh body kept) :
      ∃ found, kept.lookup? (pointerOfPath documentType.keyPath) = some found ∧ found ≠ .null ∧
        keyText found = key := by
    refine ⟨.text fresh.toText, ?_, nofun, done.1.symm⟩
    rw [unmarked.pointer, Json.lookup?_pointerOf]
    exact done.2.set.set
  dsimp only at read
  cases found : body.lookup? (pointerOfPath documentType.keyPath) with
  | none =>
    rw [found] at read
    rw [keyOf, found] at keyed
    have done := makeKey_eq_ok read keyed
    exact ⟨made read done, .inr done⟩
  | some value =>
    rw [found] at read
    by_cases absent : value = .null
    · subst absent
      rw [keyOf, found] at keyed
      have done := makeKey_eq_ok read keyed
      exact ⟨made read done, .inr done⟩
    · have same := (keyOf_of_lookup? found absent fresh).symm.trans keyed
      obtain ⟨rfl, rfl⟩ := Prod.mk.inj (Except.ok.inj same)
      exact ⟨⟨value, found, absent, rfl⟩, .inl rfl⟩

end DocumentType

/-! ### Storing once and again -/

namespace Store

variable {store next : Store} {typeName : String} {body : Json} {fresh : Uuid}
  {document : Document} {documentType : DocumentType}

theorem keyOf_of_put (described : store.planner.catalog.describe typeName = .ok documentType)
    (stored : store.put typeName body fresh = (.ok document, next)) :
    document.typeName = typeName ∧ documentType.Stores document ∧
      documentType.keyOf body fresh = .ok (document.key, document.body) := by
  obtain ⟨other, same, named, stores, keyed⟩ := prepare_sound (put_eq_ok stored).1
  obtain rfl := Except.ok.inj (described.symm.trans same)
  exact ⟨named, stores, keyed⟩

/-- A document is stored under the key that filters read from it. -/
theorem evaluate_keySource_of_put
    (described : store.planner.catalog.describe typeName = .ok documentType)
    (unmarked : documentType.KeyUnmarked)
    (stored : store.put typeName body fresh = (.ok document, next)) :
    documentType.keySource.evaluate document.row = .ok (.text document.key) := by
  obtain ⟨_, _, keyed⟩ := keyOf_of_put described stored
  obtain ⟨⟨found, here, present, same⟩, _⟩ := DocumentType.keyOf_eq_ok unmarked keyed
  have seen : document.row.body.lookup? (pointerOfPath documentType.keyPath) = some found := here
  rw [unmarked.evaluate_keySource, seen, Option.map_some, Option.getD_some,
    Json.extracted_eq present, same]

theorem documents_write (store : Store) (document : Document) :
    (store.write document).documents =
      (store.documents.filter fun other => !holds document.typeName document.key other) ++
        [document] := rfl

/-- Of two documents with one key that are written one after the other, only the second stays. -/
theorem documents_write_write (store : Store) {first second : Document}
    (named : second.typeName = first.typeName) (keyed : second.key = first.key) :
    ∃ others, (store.write first).documents = others ++ [first] ∧
      ((store.write first).write second).documents = others ++ [second] := by
  refine ⟨_, documents_write store first, ?_⟩
  have gone : holds first.typeName first.key first = true := by simp [holds]
  rw [documents_write, documents_write, named, keyed, List.filter_append, List.filter_filter,
    List.filter_cons_of_neg (by simp [gone])]
  simp

theorem exists_record_of_put
    (described : store.planner.catalog.describe typeName = .ok documentType)
    (unmarked : documentType.KeyUnmarked)
    (stored : store.put typeName body fresh = (.ok document, next)) :
    ∃ members, document.body = .record members := by
  obtain ⟨_, _, keyed⟩ := keyOf_of_put described stored
  rcases (DocumentType.keyOf_eq_ok unmarked keyed).2 with same | ⟨_, made⟩
  · rw [same]
    obtain ⟨_, _, prepared⟩ := bind_eq_ok.mp (put_eq_ok stored).1
    cases body with
    | record members => exact ⟨members, rfl⟩
    | _ => exact absurd prepared nofun
  · exact made.set.exists_record

/-- What has been stored can be stored again as it is, with the same key and the same columns. -/
theorem put_again (described : store.planner.catalog.describe typeName = .ok documentType)
    (unmarked : documentType.KeyUnmarked)
    (stored : store.put typeName body fresh = (.ok document, next)) (other : Uuid) :
    ∃ again, next.put typeName document.body other = (.ok again, next.write again) ∧
      again.typeName = document.typeName ∧ again.key = document.key ∧
      again.body = document.body ∧ again.columns = document.columns ∧
      again.version = document.version + 1 := by
  obtain ⟨named, stores, keyed⟩ := keyOf_of_put described stored
  obtain ⟨members, isRecord⟩ := exists_record_of_put described unmarked stored
  obtain ⟨_, rfl⟩ := put_eq_ok stored
  obtain ⟨⟨found, here, present, same⟩, _⟩ := DocumentType.keyOf_eq_ok unmarked keyed
  have again := DocumentType.keyOf_of_lookup? here present other
  have checked := forM_eq_ok.mpr stores.utc
  have described : (store.write document).planner.catalog.describe typeName = .ok documentType :=
    described
  have counted : (store.write document).writeCount typeName = document.version := by
    rw [writeCount_write, if_pos named]
  refine ⟨⟨typeName, document.key, document.version + 1, document.body, document.columns⟩, ?_,
    named.symm, rfl, rfl, rfl, rfl⟩
  have columns := stores.columns
  rw [isRecord] at again checked columns ⊢
  refine put_of_prepare ?_
  rw [prepare, described]
  simp only [Except.mapError, ok_bind, again, same, checked, columns, pure_eq_ok, counted]

/-- A document is stored under the key that filters read from it, and it is what was to be stored,
but for a key that has been made up where there was none. Storing it again succeeds, with the same
key, body and columns and a higher version; the new document takes the place of the old one, and
all others stay. -/
theorem put_twice (described : store.planner.catalog.describe typeName = .ok documentType)
    (unmarked : documentType.KeyUnmarked)
    (stored : store.put typeName body fresh = (.ok document, next)) :
    documentType.keySource.evaluate document.row = .ok (.text document.key) ∧
      (document.body = body ∨
        document.key = fresh.toText ∧ documentType.KeyMade fresh body document.body) ∧
      ∀ other, ∃ again last, next.put typeName document.body other = (.ok again, last) ∧
        again.key = document.key ∧ again.body = document.body ∧
        again.columns = document.columns ∧ document.version < again.version ∧
        ∃ others, next.documents = others ++ [document] ∧ last.documents = others ++ [again] := by
  refine ⟨evaluate_keySource_of_put described unmarked stored,
    (DocumentType.keyOf_eq_ok unmarked (keyOf_of_put described stored).2.2).2, fun other => ?_⟩
  obtain ⟨again, storedAgain, named, keyed, kept, columns, version⟩ :=
    put_again described unmarked stored other
  obtain ⟨_, rfl⟩ := put_eq_ok stored
  exact ⟨again, _, storedAgain, keyed, kept, columns, by omega,
    documents_write_write store named keyed⟩

theorem keyUnmarked_meeting (start : Storage) : (DocumentType.meeting start).KeyUnmarked := by
  show (Text.trim "Id".toList).dropWhile (· == '$') = "Id".toList
  decide +kernel

/-- A meeting without a key is given one, and keeps it. -/
theorem put_twice_meeting :
    ∃ document next again last,
      (ofMeetings .extracted rfl).put "Meeting"
          (.record [("Start", .text "2026-03-01T14:00:00Z")]) ⟨7⟩ = (.ok document, next) ∧
        (DocumentType.meeting .extracted).keySource.evaluate document.row =
          .ok (.text document.key) ∧
        next.put "Meeting" document.body ⟨8⟩ = (.ok again, last) ∧ again.key = document.key ∧
        document.version < again.version := by
  have fine : ((ofMeetings .extracted rfl).put "Meeting"
      (.record [("Start", .text "2026-03-01T14:00:00Z")]) ⟨7⟩).1.isOk = true := by
    decide +kernel
  obtain ⟨document, next, stored⟩ := exists_put_of_isOk fine
  obtain ⟨read, _, again⟩ := put_twice (describe_ofMeetings .extracted rfl)
    (keyUnmarked_meeting .extracted) stored
  obtain ⟨again, last, storedAgain, keyed, _, _, later, _⟩ := again ⟨8⟩
  exact ⟨document, next, again, last, stored, read, storedAgain, keyed, later⟩

end Store

end Sieve
