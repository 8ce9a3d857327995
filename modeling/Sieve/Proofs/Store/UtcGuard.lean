/-
This file says what the check for UTC keeps out of a store and what it lets in. A text
is read as an instant and as a wall clock, and the two agree unless the text is written
with an offset other than zero. The check reads the text as it stands, where the casts
drop the blanks around it, and it drops blanks and the mark of the root from the path,
which the casts keep. A stored text therefore has such an offset exactly where one of
these differences hides it from the check.
-/

import Sieve.Proofs.Calendar.Offsets
import Sieve.Proofs.Filter.Reading
import Sieve.Proofs.Json.Printed

namespace Sieve

open Calendar Outcome

/-! ### Texts with an offset -/

/-- A text that is written with an offset other than zero. -/
def Calendar.ZonedTime.HasOffset (text : List Char) : Prop :=
  ∃ time, ofText? text = some time ∧ time.offset ≠ 0

/-- The casts of a text to a wall clock and to an instant agree: both fail, or the wall clock is
the one that the instant has in UTC. -/
def Datum.CastsAgree (content : String) : Prop :=
  (text content).cast? .timestamp =
    ((text content).cast? .timestampTz).bind fun instant => instant.cast? .timestamp

theorem Datum.castsAgree_iff (content : String) :
    CastsAgree content ↔ ¬ZonedTime.HasOffset (Text.trim content.toList) := by
  have clock : (text content).cast? .timestamp =
      (WallClock.ofText? (Text.trim content.toList)).map timestamp := rfl
  have instant :
      ((text content).cast? .timestampTz).bind (fun instant => instant.cast? .timestamp) =
      ((Instant.ofText? (Text.trim content.toList)).map Instant.utc).map timestamp := by
    show (((Instant.ofText? (Text.trim content.toList)).map timestampTz).bind
      fun instant => instant.cast? .timestamp) = _
    cases Instant.ofText? (Text.trim content.toList) <;> rfl
  have distinct : Function.Injective timestamp := fun _ _ same => timestamp.inj same
  rw [CastsAgree, clock, instant, (Option.map_injective distinct).eq_iff,
    WallClock.ofText?_eq_iff, ZonedTime.HasOffset]
  push Not
  rfl

/-! ### The check -/

namespace Field

variable {field : Field} {body : Json}

/-- The check refuses exactly the texts with an offset that stand at its own pointer. -/
theorem checkUtc_eq_ok_iff (utc : field.kind = .utc) :
    field.checkUtc body = .ok () ↔
      ∀ content, body.lookup? (pointerOfPath field.path) = some (.text content) →
        ¬ZonedTime.HasOffset content.toList := by
  rw [checkUtc, if_pos utc]
  cases found : body.lookup? (pointerOfPath field.path) with
  | none => simp
  | some value =>
    cases value with
    | text content =>
      cases zoned : ZonedTime.ofText? content.toList with
      | none => simp [ZonedTime.HasOffset, zoned]
      | some time =>
        by_cases zero : time.offset = 0
        · simp [ZonedTime.HasOffset, zoned, zero]
        · simp [ZonedTime.HasOffset, zoned, zero]
    | _ => simp

/-- A text with blanks around it passes the check, whatever its offset: as it stands it is no zoned
time. -/
theorem checkUtc_of_blanks {content : String}
    (found : body.lookup? (pointerOfPath field.path) = some (.text content))
    (blanks : Text.trim content.toList ≠ content.toList) : field.checkUtc body = .ok () := by
  by_cases utc : field.kind = .utc
  · refine (checkUtc_eq_ok_iff utc).mpr fun other seen => ?_
    obtain rfl := Json.text.inj (Option.some.inj (found.symm.trans seen))
    rintro ⟨time, zoned, _⟩
    exact blanks (ZonedTime.trim_of_ofText? zoned)
  · rw [checkUtc, if_neg utc]

/-- A path that the check takes as it is: no blanks stand around it and no mark of the root before
it. -/
def Unmarked (field : Field) : Prop :=
  (Text.trim field.path.toList).dropWhile (· == '$') = field.path.toList

/-- Of an unmarked path the check sees every text that the casts read with an offset. -/
theorem lookup?_of_hasOffset (unmarked : field.Unmarked) {content : String}
    (read : field.text body = .text content)
    (away : ZonedTime.HasOffset (Text.trim content.toList)) :
    body.lookup? (pointerOfPath field.path) = some (.text content) := by
  have pointer : pointerOfPath field.path = Json.pointerOf (pathSegments field.path) := by
    rw [Unmarked] at unmarked
    rw [pointerOfPath, unmarked, String.ofList_toList]
  rw [pointer]
  rw [text] at read
  split at read
  · rename_i value found
    have printed (other : ∀ content, value ≠ .text content) : value.toText ≠ content := by
      rintro rfl
      obtain ⟨time, zoned, _⟩ := away
      rw [Json.ofText?_trim_toText other] at zoned
      exact absurd zoned (by simp)
    rw [found]
    cases value with
    | text content => exact congrArg (some ∘ Json.text) (Datum.text.inj read)
    | null => exact absurd read (by simp [Json.extracted])
    | _ => exact absurd (Datum.text.inj read) (printed fun _ same => Json.noConfusion same)
  · exact absurd read (by simp)

end Field

/-! ### What is stored -/

namespace Store

/-- A value is stored where a key is found or made, no text that the check sees has an offset, and
the columns can be computed. -/
theorem put_iff {store : Store} {typeName : String} {members : List (String × Json)}
    {fresh : Uuid} {documentType : DocumentType}
    (described : store.planner.catalog.describe typeName = .ok documentType) :
    (∃ document, (store.put typeName (.record members) fresh).1 = .ok document) ↔
      ∃ key body, documentType.keyOf (.record members) fresh = .ok (key, body) ∧
        (∀ field ∈ documentType.fields, field.kind = .utc →
          ∀ content, body.lookup? (pointerOfPath field.path) = some (.text content) →
            ¬ZonedTime.HasOffset content.toList) ∧
        ∃ columns, columnsOf body documentType.fields = .ok columns := by
  rw [fst_put]
  constructor
  · rintro ⟨document, prepared⟩
    obtain ⟨other, same, _, stores, keyed⟩ := prepare_sound prepared
    obtain rfl := Except.ok.inj (described.symm.trans same)
    exact ⟨document.key, document.body, keyed, fun field member utc =>
      (Field.checkUtc_eq_ok_iff utc).mp (stores.utc field member), _, stores.columns⟩
  · rintro ⟨key, body, keyed, unseen, columns, made⟩
    have checked : documentType.fields.forM (fun field => field.checkUtc body) = .ok () := by
      refine forM_eq_ok.mpr fun field member => ?_
      by_cases utc : field.kind = .utc
      · exact (Field.checkUtc_eq_ok_iff utc).mpr (unseen field member utc)
      · rw [Field.checkUtc, if_neg utc]
    rw [prepare, described]
    simp only [Except.mapError, ok_bind, keyed, checked, made, pure_eq_ok]
    exact ⟨_, rfl⟩

/-- What the check for UTC is worth. A value is stored exactly where no text with an offset stands,
as it is, at the pointer that the check makes of the path. So in every store that changes lead to,
the casts of a text of an instant disagree exactly where its offset is hidden from the check: by
blanks around the text, or by a pointer that does not lead to it. Of a path without marks only
blanks can hide it. -/
theorem utc_guard_exact (planner : Planner) :
    (∀ (store : Store) typeName members fresh documentType, store.planner = planner →
      planner.catalog.describe typeName = .ok documentType →
      ((∃ document, (store.put typeName (.record members) fresh).1 = .ok document) ↔
        ∃ key body, documentType.keyOf (.record members) fresh = .ok (key, body) ∧
          (∀ field ∈ documentType.fields, field.kind = .utc →
            ∀ content, body.lookup? (pointerOfPath field.path) = some (.text content) →
              ¬ZonedTime.HasOffset content.toList) ∧
          ∃ columns, columnsOf body documentType.fields = .ok columns)) ∧
      ∀ changes, ∀ document ∈ ((empty planner).afterAll changes).documents, ∀ documentType,
        planner.catalog.describe document.typeName = .ok documentType →
        ∀ field ∈ documentType.fields, field.kind = .utc →
        ∀ content, field.textSource.evaluate document.row = .ok (.text content) →
          (Datum.CastsAgree content ↔
            ¬(ZonedTime.HasOffset (Text.trim content.toList) ∧
              (Text.trim content.toList ≠ content.toList ∨
                document.body.lookup? (pointerOfPath field.path) ≠ some (.text content)))) ∧
          (field.Unmarked → (Datum.CastsAgree content ↔
            ¬(ZonedTime.HasOffset (Text.trim content.toList) ∧
              Text.trim content.toList ≠ content.toList))) := by
  refine ⟨fun store typeName members fresh documentType same described =>
    put_iff (by rwa [same]), ?_⟩
  intro changes document member documentType described field declared utc content read
  obtain ⟨other, same, stores⟩ := sound_afterAll_empty planner changes document member
  obtain rfl := Except.ok.inj (described.symm.trans same)
  rw [Field.evaluate_textSource] at read
  have text : field.text document.body = .text content := Except.ok.inj read
  have hidden (away : ZonedTime.HasOffset (Text.trim content.toList)) :
      Text.trim content.toList ≠ content.toList ∨
        document.body.lookup? (pointerOfPath field.path) ≠ some (.text content) := by
    refine not_and_or.mp fun ⟨plain, seen⟩ => ?_
    rw [plain] at away
    exact (Field.checkUtc_eq_ok_iff utc).mp (stores.utc field declared) content seen away
  rw [Datum.castsAgree_iff]
  refine ⟨not_congr (and_iff_left_of_imp hidden).symm, fun unmarked => not_congr ?_⟩
  refine (and_iff_left_of_imp fun away => ?_).symm
  exact (hidden away).resolve_right
    (not_not_intro (Field.lookup?_of_hasOffset unmarked text away))

/-- A blank in front of the start of a meeting hides its offset: the start passes the check, the
meeting is stored, and the casts of its start disagree. -/
theorem utc_guard_exact_of_blank :
    ∃ document ∈ ((ofMeetings .extracted rfl).afterAll
        [.meeting " 2026-03-01T16:00:00+02:00"]).documents,
      (Field.mk "Start" .utc .extracted).textSource.evaluate document.row =
          .ok (.text " 2026-03-01T16:00:00+02:00") ∧
        (Field.mk "Start" .utc .extracted).checkUtc document.body = .ok () ∧
        ¬Datum.CastsAgree " 2026-03-01T16:00:00+02:00" := by
  have first : (((ofMeetings .extracted rfl).afterAll
        [.meeting " 2026-03-01T16:00:00+02:00"]).documents.head?).map (fun document =>
          (document.typeName, (Field.mk "Start" .utc .extracted).text document.body)) =
      some ("Meeting", .text " 2026-03-01T16:00:00+02:00") := by
    decide +kernel
  obtain ⟨document, found, same⟩ := Option.map_eq_some_iff.mp first
  obtain ⟨named, start⟩ := Prod.mk.inj same
  have member := List.mem_of_head? found
  have read : (Field.mk "Start" .utc .extracted).textSource.evaluate document.row =
      .ok (.text " 2026-03-01T16:00:00+02:00") := by
    rw [Field.evaluate_textSource]
    exact congrArg Except.ok start
  have described : (Catalog.meetings .extracted rfl).describe document.typeName =
      .ok (.meeting .extracted) := by
    rw [named]
    rfl
  have zoned : ZonedTime.ofText? (Text.trim " 2026-03-01T16:00:00+02:00".toList) =
      some ⟨⟨⟨1772373600, 0⟩⟩, 7200⟩ := by
    decide +kernel
  have away : ZonedTime.HasOffset (Text.trim " 2026-03-01T16:00:00+02:00".toList) :=
    ⟨_, zoned, by decide⟩
  have blank : Text.trim " 2026-03-01T16:00:00+02:00".toList ≠
      " 2026-03-01T16:00:00+02:00".toList := by
    decide +kernel
  have unmarked : (Field.mk "Start" .utc .extracted).Unmarked := by
    show (Text.trim "Start".toList).dropWhile (· == '$') = "Start".toList
    decide +kernel
  have passed : (Field.mk "Start" .utc .extracted).checkUtc document.body = .ok () :=
    Field.checkUtc_of_blanks (Field.lookup?_of_hasOffset unmarked start away) blank
  have exact := (utc_guard_exact ⟨.meetings .extracted rfl, .standard⟩).2 _ document member _
    described _ (List.mem_cons_of_mem _ List.mem_cons_self) rfl _ read
  exact ⟨document, member, read, passed, fun agree => exact.1.mp agree ⟨away, .inl blank⟩⟩

end Store

end Sieve
