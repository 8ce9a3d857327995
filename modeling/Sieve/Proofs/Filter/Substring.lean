/-
This file proves that looking for a text means what it says. A field of texts can always
be searched, wherever it is stored, and on the row of a stored document the answer is
whether the text is found in the text of the field, or the lowercase of the one in the
lowercase of the other. Nothing in the text that is looked for acts as a pattern.
-/

import Sieve.Proofs.Filter.Independence
import Sieve.Proofs.Pattern.Literal
import Sieve.Proofs.Predicate.Verdict

namespace Sieve

open Outcome

/-- A field of texts that can be stored is searched where it is. -/
theorem Field.literalAccess_text {field : Field} (strings : field.kind = .string)
    (storable : field.Storable) (textMatch : TextMatch) :
    field.literalAccess (.text textMatch) = .ok field.access := by
  rcases field.literalAccess_cases storable (.text textMatch) with ⟨ordering, _⟩ | ⟨_, read⟩
  · exact absurd ordering (by simp [Operator.operatorClass])
  · rw [read, strings]
    rfl

/-! ### Stored documents -/

namespace Store

/-- Looking for a text means what it says. Let a document be stored, and let it have a text for a
field of texts. Then a predicate that looks for a text in this field is compiled, and its filter is
true on the row if the text is found in that of the field, and false if it is not; where case is
ignored, the lowercase of the text is looked for in the lowercase of that of the field. -/
theorem evaluate_put_text {store next : Store} {typeName path value content : String} {body : Json}
    {fresh : Uuid} {document : Document} {field : Field} {textMatch : TextMatch}
    {ignoresCase : Bool}
    (resolved : store.planner.catalog.resolve typeName path = .ok field)
    (strings : field.kind = .string)
    (stored : store.put typeName body fresh = (.ok document, next))
    (holds : field.text document.body = .text content) :
    ∃ access pattern truth,
      store.planner.catalog.compile typeName (.text path textMatch value ignoresCase) =
        .ok (.like access pattern ignoresCase) ∧
      Filter.evaluate document.row (.like access pattern ignoresCase) = .ok (some truth) ∧
      (truth = true ↔
        if ignoresCase then
          textMatch.Finds (Text.lowercase value.toList) (Text.lowercase content.toList)
        else textMatch.Finds value.toList content.toList) := by
  obtain ⟨documentType, described, declared⟩ := Catalog.resolve_eq_ok.mp resolved
  obtain ⟨other, same, _, stores, _⟩ := prepare_sound (put_eq_ok stored).1
  obtain rfl := Except.ok.inj (described.symm.trans same)
  have held : field.HeldBy document.row :=
    Field.heldBy_of_stores (Catalog.valid_of_describe described) stores
      (DocumentType.mem_of_field? declared).1
  have accessed : store.planner.catalog.literalAccess typeName path (.text textMatch) =
      .ok field.access := by
    rw [Catalog.literalAccess, resolved]
    exact Field.literalAccess_text strings held.storable textMatch
  have texts : field.text document.row.body = .text content := holds
  refine ⟨field.access, _, _, Catalog.compileText_eq_ok.mpr ⟨_, accessed, rfl⟩, ?_,
    Pattern.isMatch_lookingFor textMatch ignoresCase value.toList content.toList⟩
  rw [Filter.evaluate, Field.evaluate_access_of_string strings held, texts, ok_bind, Datum.like,
    String.toList_ofList]
  rfl

end Store

/-! ### Notes -/

/-- A type of notes. -/
def DocumentType.note : DocumentType :=
  ⟨"Note", "notes", "Id",
    [⟨"Id", .string, .extracted⟩, ⟨"Text", .string, .duplicated "text" .text⟩]⟩

/-- A catalog of notes alone. -/
def Catalog.notes : Catalog where
  types := [.note]
  checked := List.forall_mem_singleton.mpr (by decide +kernel)
  distinct := List.pairwise_singleton _ _

/-- A note with a text. -/
def Json.note (content : String) : Json :=
  .record [("Id", .text "1"), ("Text", .text content)]

/-- A text with a percent sign, an underscore and a sigma at its end is looked for in another one
as it is written, but for the case of its letters. -/
theorem Store.evaluate_put_text_of_note :
    ∃ document next access pattern truth,
      (empty ⟨.notes, .standard⟩).put "Note" (.note "5%_ΟΔΟΣ ΕΔΩ") ⟨0⟩ = (.ok document, next) ∧
      Catalog.notes.compile "Note" (.text "Text" .contains "%_οδοΣ" true) =
        .ok (.like access pattern true) ∧
      Filter.evaluate document.row (.like access pattern true) = .ok (some truth) ∧
      (truth = true ↔
        Text.lowercase "%_οδοΣ".toList <:+: Text.lowercase "5%_ΟΔΟΣ ΕΔΩ".toList) := by
  obtain ⟨document, next, stored⟩ := exists_put_of_isOk
    (show ((empty ⟨.notes, .standard⟩).put "Note" (.note "5%_ΟΔΟΣ ΕΔΩ") ⟨0⟩).1.isOk = true by
      decide +kernel)
  have key : (Json.note "5%_ΟΔΟΣ ΕΔΩ").lookup? (pointerOfPath DocumentType.note.keyPath) =
      some (.text "1") := by
    rfl
  have holds : (Field.mk "Text" .string (.duplicated "text" .text)).text document.body =
      .text "5%_ΟΔΟΣ ΕΔΩ" := by
    rw [body_of_put rfl key nofun stored]
    rfl
  have resolved : (empty ⟨.notes, .standard⟩).planner.catalog.resolve "Note" "Text" =
      .ok ⟨"Text", .string, .duplicated "text" .text⟩ := by
    rfl
  obtain ⟨access, pattern, truth, compiled, evaluated, found⟩ :=
    @evaluate_put_text _ _ _ _ "%_οδοΣ" _ _ _ _ _ .contains true resolved rfl stored holds
  exact ⟨document, next, access, pattern, truth, stored, compiled, evaluated, found⟩

end Sieve
