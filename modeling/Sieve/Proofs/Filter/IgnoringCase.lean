/-
This file says what becomes of a text that is found when case is ignored. The lowercase of
both texts is compared, and the lowercase of a capital sigma depends on where it stands. So
what is found stays found at the places where its sigmas keep their forms. They do everywhere
if the text that is looked for has no open sigma at an end that others can stand at, and any
other text is no longer found in some text that it is found in.
-/

import Sieve.Proofs.Filter.Substring
import Sieve.Proofs.Json.Insert
import Sieve.Proofs.Json.Pointer
import Sieve.Proofs.Text.Sigma

namespace Sieve

open Outcome

/-! ### Places -/

namespace TextMatch

variable {textMatch : TextMatch} {sought text front back : List Char}

/-- Whether a text can be found with others before it and after it. -/
def Surrounds (textMatch : TextMatch) (front back : List Char) : Prop :=
  match textMatch with
  | contains => True
  | startsWith => front = []
  | endsWith => back = []

/-- What is found has a place in the text. -/
theorem finds_iff :
    textMatch.Finds sought text ↔
      ∃ front back, textMatch.Surrounds front back ∧ front ++ sought ++ back = text := by
  cases textMatch with
  | contains => simp only [Finds, Surrounds, true_and, List.IsInfix]
  | startsWith => simp only [Finds, Surrounds, List.IsPrefix, exists_and_left, exists_eq_left,
      List.nil_append]
  | endsWith => simp only [Finds, Surrounds, List.IsSuffix, exists_eq_left, List.append_nil]

theorem Finds.infix (finds : textMatch.Finds sought text) : sought <:+: text := by
  cases textMatch with
  | contains => exact finds
  | startsWith => exact List.IsPrefix.isInfix finds
  | endsWith => exact List.IsSuffix.isInfix finds

/-- At a place where its sigmas keep their forms, a text is found in lowercase as well. -/
theorem finds_lowercase (surrounds : textMatch.Surrounds front back)
    (keeps : Text.KeepsSigmas front sought back) :
    textMatch.Finds (Text.lowercase sought) (Text.lowercase (front ++ sought ++ back)) := by
  rw [Text.lowercase_append_append, Text.lowercaseBetween_eq_lowercase_iff.mpr keeps]
  refine finds_iff.mpr ⟨_, _, ?_, List.append_assoc _ _ _⟩
  cases textMatch with
  | contains => exact trivial
  | startsWith =>
    obtain rfl : front = [] := surrounds
    rfl
  | endsWith =>
    obtain rfl : back = [] := surrounds
    rfl

/-! ### Settled texts -/

/-- Whether a text has no open sigma at an end that others can stand at. -/
structure Settles (textMatch : TextMatch) (sought : List Char) : Prop where
  /-- It begins with the text that it is found in, or has no open sigma at its beginning. -/
  first : textMatch = startsWith ∨ ¬Text.BeginsOpen sought
  /-- It ends with the text that it is found in, or has no open sigma at its end. -/
  last : textMatch = endsWith ∨ ¬Text.EndsOpen sought

/-- A settled text keeps its sigmas wherever it is found. -/
theorem Settles.keepsSigmas (settles : textMatch.Settles sought)
    (surrounds : textMatch.Surrounds front back) : Text.KeepsSigmas front sought back := by
  refine Text.keepsSigmas_of_closed (settles.first.imp_left ?_) (settles.last.imp_left ?_)
  · rintro rfl
    exact surrounds
  · rintro rfl
    exact surrounds

section

variable {Item : Type} {first last : Item} {row part : List Item}

/-- What is as long as a row and differs from it is no part of the row with an item before it that
it does not begin with. -/
theorem not_infix_cons (long : part.length = row.length) (changed : part ≠ row)
    (apart : part.head? ≠ some first) : ¬part <:+: first :: row := by
  rw [List.infix_cons_iff]
  rintro (begins | inside)
  · cases part with
    | nil => exact changed (List.length_eq_zero_iff.mp long.symm).symm
    | cons head tail => exact apart (congrArg some (List.cons_prefix_cons.mp begins).1)
  · exact changed (inside.eq_of_length long)

/-- What is as long as a row and differs from it is no part of the row with an item after it that
it does not end with. -/
theorem not_infix_concat (long : part.length = row.length) (changed : part ≠ row)
    (apart : part.getLast? ≠ some last) : ¬part <:+: row ++ [last] := by
  rw [← List.reverse_infix, List.reverse_append, List.reverse_singleton, List.singleton_append]
  refine not_infix_cons (by rw [List.length_reverse, List.length_reverse, long]) ?_ ?_
  · exact fun same => changed (List.reverse_injective same)
  · rwa [List.head?_reverse]

end

/-- A text with an open sigma at its beginning is lost behind a letter. -/
theorem exists_lost_of_beginsOpen (within : textMatch ≠ startsWith)
    (opens : Text.BeginsOpen sought) :
    ∃ text, textMatch.Finds sought text ∧
      ¬textMatch.Finds (Text.lowercase sought) (Text.lowercase text) := by
  -- If the lowercase began with the letter, it might still be found, one place earlier.
  obtain ⟨letter, met, kept, apart⟩ := Text.exists_letter_ne (Text.lowercase sought).head?
  have surrounds : textMatch.Surrounds [letter] [] := by
    cases textMatch with
    | contains => exact trivial
    | startsWith => exact absurd rfl within
    | endsWith => exact rfl
  have changed : Text.lowercase sought ≠ Text.lowercaseBetween [letter].reverse sought [] :=
    fun same => Text.not_keepsSigmas_of_beginsOpen met opens
      (Text.lowercaseBetween_eq_lowercase_iff.mp same.symm)
  refine ⟨[letter] ++ sought ++ [], finds_iff.mpr ⟨_, _, surrounds, rfl⟩, fun finds => ?_⟩
  have stays : Text.lowercaseBetween [] [letter] (sought ++ []) = [letter] := by
    rw [Text.lowercaseBetween, kept]
    rfl
  have inside := finds.infix
  rw [Text.lowercase_append_append, stays, Text.lowercaseAfter, List.append_nil] at inside
  exact not_infix_cons (Text.length_lowercaseBetween _ _ _).symm changed apart inside

/-- A text with an open sigma at its end is lost before a letter. -/
theorem exists_lost_of_endsOpen (within : textMatch ≠ endsWith) (opens : Text.EndsOpen sought) :
    ∃ text, textMatch.Finds sought text ∧
      ¬textMatch.Finds (Text.lowercase sought) (Text.lowercase text) := by
  obtain ⟨letter, met, kept, apart⟩ := Text.exists_letter_ne (Text.lowercase sought).getLast?
  have surrounds : textMatch.Surrounds [] [letter] := by
    cases textMatch with
    | contains => exact trivial
    | startsWith => exact rfl
    | endsWith => exact absurd rfl within
  have changed : Text.lowercase sought ≠ Text.lowercaseBetween [].reverse sought [letter] :=
    fun same => Text.not_keepsSigmas_of_endsOpen met opens
      (Text.lowercaseBetween_eq_lowercase_iff.mp same.symm)
  refine ⟨[] ++ sought ++ [letter], finds_iff.mpr ⟨_, _, surrounds, rfl⟩, fun finds => ?_⟩
  have inside := finds.infix
  rw [Text.lowercase_append_append, Text.lowercaseAfter_cons, kept] at inside
  exact not_infix_concat (Text.length_lowercaseBetween _ _ _).symm changed apart inside

/-- A text without a capital sigma is settled. -/
theorem settles_of_not_mem (absent : 'Σ' ∉ sought) : textMatch.Settles sought where
  first := .inr fun ⟨_, _, shape, _⟩ => absent (by rw [shape]; simp)
  last := .inr fun ⟨_, _, shape, _⟩ => absent (by rw [shape]; simp)

/-- Settled texts are those that stay found in lowercase wherever they are found. -/
theorem settles_iff :
    textMatch.Settles sought ↔
      ∀ text, textMatch.Finds sought text →
        textMatch.Finds (Text.lowercase sought) (Text.lowercase text) := by
  constructor
  · intro settles text finds
    obtain ⟨front, back, surrounds, rfl⟩ := finds_iff.mp finds
    exact finds_lowercase surrounds (settles.keepsSigmas surrounds)
  · intro stays
    have noLoss : ¬∃ text, textMatch.Finds sought text ∧
        ¬textMatch.Finds (Text.lowercase sought) (Text.lowercase text) :=
      fun ⟨text, finds, lost⟩ => lost (stays text finds)
    constructor
    · exact or_iff_not_imp_left.mpr fun within opens =>
        noLoss (exists_lost_of_beginsOpen within opens)
    · exact or_iff_not_imp_left.mpr fun within opens =>
        noLoss (exists_lost_of_endsOpen within opens)

end TextMatch

/-! ### Rows with a given text -/

/-- A JSON value at the end of a path. -/
def Json.nested : List String → Json → Json
  | [], value => value
  | segment :: rest, value => .record [(segment, nested rest value)]

theorem Json.walk?_nested (segments : List String) (value : Json) :
    (nested segments value).walk? segments = some value := by
  induction segments with
  | nil => rfl
  | cons segment rest inductionHypothesis =>
    have below : (nested (segment :: rest) value).child? segment = some (nested rest value) := by
      simp [nested, child?, member?]
    rw [walk?_cons, below, Option.bind_some, inductionHypothesis]

/-- A document can have any text for a field. -/
theorem Field.text_nested (field : Field) (content : String) :
    field.text (Json.nested (pathSegments field.path) (.text content)) = .text content := by
  rw [text, Json.lookup?_pointerOf, Json.walk?_nested]
  rfl

/-- A field of texts can hold any text. -/
theorem Field.exists_heldBy {field : Field} (strings : field.kind = .string)
    (storable : field.Storable) (content : String) :
    ∃ row, field.HeldBy row ∧ field.text row.body = .text content := by
  refine ⟨⟨Json.nested (pathSegments field.path) (.text content),
      (field.column?.map fun column => (column.1, .text content)).toList⟩,
    ⟨storable, fun column type stored => ?_⟩, field.text_nested content⟩
  have kept (body : Json) : Row.column ⟨body, [(column, .text content)]⟩ column = .text content := by
    simp [Row.column]
  rw [columnValue_eq, strings, text_nested, column_type_of_string strings storable stored, stored]
  exact congrArg Except.ok (kept _).symm

/-! ### Filters -/

/-- A filter that looks for a text is true on the rows in whose text it is found. -/
theorem Field.evaluate_lookingFor_eq_true_iff {field : Field} {row : Row} {textMatch : TextMatch}
    {value : List Char} {ignoresCase : Bool} (strings : field.kind = .string)
    (held : field.HeldBy row) :
    Filter.evaluate row (.like field.access
        ⟨.text (String.ofList (Pattern.lookingFor textMatch value)), .text⟩ ignoresCase) =
      .ok (some true) ↔
      ∃ content, field.text row.body = .text content ∧
        if ignoresCase then
          textMatch.Finds (Text.lowercase value) (Text.lowercase content.toList)
        else textMatch.Finds value content.toList := by
  rw [Filter.evaluate, evaluate_access_of_string strings held, ok_bind]
  rcases field.text_eq_null_or_text row.body with null | ⟨content, found⟩
  · simp [null, Datum.like, pure, Except.pure]
  · simp only [found, Datum.like, pure_eq_ok, Except.ok.injEq, Option.some.injEq,
      Datum.text.injEq, exists_eq_left', String.toList_ofList]
    exact Pattern.isMatch_lookingFor textMatch ignoresCase value content.toList

namespace Catalog

variable {catalog : Catalog} {typeName path value : String} {textMatch : TextMatch}

/-- What looking for a text keeps when it comes to ignore case. Let a predicate that looks for a
text be compiled. Then it is also compiled where it ignores case, and it is true as well on the
rows that have the text at a place where each capital sigma of it becomes what it becomes in the
text alone. It is true as well on all rows exactly if the text is settled: if others can stand
before it, it does not begin with a sigma that no letter comes after, and if others can stand
after it, it does not end with a sigma that a letter comes before. -/
theorem matches_ignoring_case {sensitive : Filter}
    (compiled : catalog.compile typeName (.text path textMatch value false) = .ok sensitive) :
    ∃ field insensitive,
      catalog.resolve typeName path = .ok field ∧
      catalog.compile typeName (.text path textMatch value true) = .ok insensitive ∧
      (∀ row front back, field.HeldBy row →
        field.text row.body = .text (String.ofList (front ++ value.toList ++ back)) →
        textMatch.Surrounds front back → Text.KeepsSigmas front value.toList back →
          sensitive.evaluate row = .ok (some true) ∧ insensitive.evaluate row = .ok (some true)) ∧
      (textMatch.Settles value.toList ↔
        ∀ row, field.HeldBy row → sensitive.evaluate row = .ok (some true) →
          insensitive.evaluate row = .ok (some true)) := by
  obtain ⟨access, accessed, rfl⟩ := compileText_eq_ok.mp compiled
  obtain ⟨field, resolved, read⟩ := literalAccess_eq_ok.mp accessed
  obtain ⟨supported, answered, rfl⟩ := Field.literalAccess_eq_ok.mp read
  have strings : field.kind = .string := eq_of_beq supported
  have storable : field.Storable := fun column type stored => (answered column type stored).1
  refine ⟨field, _, resolved, compileText_eq_ok.mpr ⟨_, accessed, rfl⟩, ?_, ?_⟩
  · intro row front back held holds surrounds keeps
    rw [Field.evaluate_lookingFor_eq_true_iff strings held,
      Field.evaluate_lookingFor_eq_true_iff strings held]
    refine ⟨⟨_, holds, ?_⟩, _, holds, ?_⟩
    · rw [String.toList_ofList]
      exact TextMatch.finds_iff.mpr ⟨front, back, surrounds, rfl⟩
    · rw [String.toList_ofList]
      exact TextMatch.finds_lowercase surrounds keeps
  · rw [TextMatch.settles_iff]
    constructor
    · intro stays row held found
      obtain ⟨content, holds, finds⟩ := (Field.evaluate_lookingFor_eq_true_iff strings held).mp found
      exact (Field.evaluate_lookingFor_eq_true_iff strings held).mpr
        ⟨content, holds, stays content.toList finds⟩
    · intro stays text finds
      obtain ⟨row, held, holds⟩ := Field.exists_heldBy strings storable (String.ofList text)
      have found := stays row held <| (Field.evaluate_lookingFor_eq_true_iff strings held).mpr
        ⟨_, holds, by rwa [String.toList_ofList]⟩
      obtain ⟨content, same, lowercased⟩ :=
        (Field.evaluate_lookingFor_eq_true_iff strings held).mp found
      obtain rfl := Datum.text.inj (holds.symm.trans same)
      rwa [String.toList_ofList] at lowercased

/-- The dotted capital I, which becomes two characters, is found in the same notes where case is
ignored. -/
theorem notes_match_ignoring_case :
    ∃ field sensitive insensitive,
      notes.resolve "Note" "Text" = .ok field ∧
      notes.compile "Note" (.text "Text" .contains "İ" false) = .ok sensitive ∧
      notes.compile "Note" (.text "Text" .contains "İ" true) = .ok insensitive ∧
      ∀ row, field.HeldBy row → sensitive.evaluate row = .ok (some true) →
        insensitive.evaluate row = .ok (some true) := by
  obtain ⟨sensitive, compiled⟩ := exists_of_isOk
    (show (notes.compile "Note" (.text "Text" .contains "İ" false)).isOk = true by rfl)
  obtain ⟨field, insensitive, resolved, ignoring, _, settled⟩ := matches_ignoring_case compiled
  exact ⟨field, sensitive, insensitive, resolved, compiled, ignoring,
    settled.mp (TextMatch.settles_of_not_mem (by decide))⟩

/-- The filter for notes with a capital sigma in their text. -/
def sigmaNotes (ignoresCase : Bool) : Filter :=
  .like (Field.access ⟨"Text", .string, .duplicated "text" .text⟩) ⟨.text "%Σ%", .text⟩ ignoresCase

/-- A sigma at the end of a note is found as it is written and not where case is ignored. -/
theorem not_matches_ignoring_case :
    ¬∀ (store next : Store) (typeName path value : String) (body : Json) (fresh : Uuid)
      (document : Document) (textMatch : TextMatch) (sensitive insensitive : Filter),
      store.put typeName body fresh = (.ok document, next) →
      store.planner.catalog.compile typeName (.text path textMatch value false) = .ok sensitive →
      store.planner.catalog.compile typeName (.text path textMatch value true) = .ok insensitive →
      sensitive.evaluate document.row = .ok (some true) →
        insensitive.evaluate document.row = .ok (some true) := by
  intro claim
  have answers : (((Store.empty ⟨.notes, .standard⟩).put "Note" (.note "ΑΣ") ⟨0⟩).1.toOption.map
      fun document => ((sigmaNotes false).evaluate document.row,
        (sigmaNotes true).evaluate document.row)) = some (.ok (some true), .ok (some false)) := by
    decide +kernel
  obtain ⟨document, next, stored, answered⟩ := Store.exists_put_of_map answers
  obtain ⟨found, lost⟩ := Prod.mk.inj answered
  have kept := claim _ next "Note" "Text" "Σ" _ _ document .contains (sigmaNotes false)
    (sigmaNotes true) stored rfl rfl found
  exact absurd (lost.symm.trans kept) (by simp)

end Catalog

end Sieve
