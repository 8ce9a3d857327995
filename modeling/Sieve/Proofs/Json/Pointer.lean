/-
This file proves that a pointer leads where its segments lead. A segment is escaped
so that no slash is left in it, and the two escapes are undone in the order in which
neither makes a mark that the other would take for its own; so cutting the pointer at
the slashes gives back the segments, and no two lists of segments have one pointer.
Where segments lead is said one segment at a time: in an object to the member with
that very key, in an array to the item whose position the segment writes in digits,
and nowhere else.
-/

import Sieve.Json.Pointer
import Sieve.Proofs.Text.Integers

namespace Sieve

/-! ### Contracted marks -/

namespace Text

variable {first second replacement character : Char}

theorem contracted_mark (rest : List Char) :
    contracted first second replacement (first :: second :: rest) =
      replacement :: contracted first second replacement rest :=
  if_pos ⟨rfl, rfl⟩

theorem contracted_cons_of_ne (other : character ≠ first) (rest : List Char) :
    contracted first second replacement (character :: rest) =
      character :: contracted first second replacement rest := by
  cases rest with
  | nil => rfl
  | cons next rest => exact if_neg fun ⟨same, _⟩ => other same

theorem contracted_cons_cons_of_ne (other : character ≠ second) (rest : List Char) :
    contracted first second replacement (first :: character :: rest) =
      first :: contracted first second replacement (character :: rest) :=
  if_neg fun ⟨_, same⟩ => other same

/-- Texts without a separator, each behind one, are the pieces of the whole. -/
theorem pieces_flatMap {Part : Type} {separator : Char} (written : Part → List Char)
    (absent : ∀ part, separator ∉ written part) (parts : List Part) :
    pieces separator (parts.flatMap fun part => separator :: written part) =
      [] :: parts.map written := by
  induction parts with
  | nil => rfl
  | cons part rest inductionHypothesis =>
    rw [List.flatMap_cons, List.cons_append, pieces, if_pos rfl, List.map_cons]
    cases rest with
    | nil =>
      rw [List.flatMap_nil, List.append_nil, pieces_of_not_mem (absent part)]
      rfl
    | cons second others =>
      rw [List.flatMap_cons, List.cons_append] at inductionHypothesis ⊢
      rw [pieces, if_pos rfl] at inductionHypothesis
      rw [pieces_append_cons (absent part), (List.cons.inj inductionHypothesis).2]

end Text

/-! ### Segments of a pointer -/

namespace Json

open Text

/-- A character in which only the tilde is escaped. -/
def withTilde (character : Char) : List Char :=
  if character = '~' then ['~', '0'] else [character]

/-- A character in which only the slash is escaped. -/
def withSlash (character : Char) : List Char :=
  if character = '/' then ['~', '1'] else [character]

theorem contracted_escapedInPointer (text : List Char) :
    contracted '~' '1' '/' (text.flatMap escapedInPointer) = text.flatMap withTilde := by
  induction text with
  | nil => rfl
  | cons character rest inductionHypothesis =>
    rw [List.flatMap_cons, List.flatMap_cons, escapedInPointer, withTilde]
    by_cases tilde : character = '~'
    · rw [if_pos tilde, if_pos tilde]
      show contracted '~' '1' '/' ('~' :: '0' :: rest.flatMap escapedInPointer) = _
      rw [contracted_cons_cons_of_ne (by decide), contracted_cons_of_ne (by decide),
        inductionHypothesis]
      rfl
    · rw [if_neg tilde, if_neg tilde]
      by_cases slash : character = '/'
      · rw [if_pos slash, slash]
        exact (contracted_mark _).trans (congrArg ('/' :: ·) inductionHypothesis)
      · rw [if_neg slash]
        exact (contracted_cons_of_ne tilde _).trans (congrArg (character :: ·) inductionHypothesis)

theorem contracted_withTilde (text : List Char) :
    contracted '~' '0' '~' (text.flatMap withTilde) = text := by
  induction text with
  | nil => rfl
  | cons character rest inductionHypothesis =>
    rw [List.flatMap_cons, withTilde]
    by_cases tilde : character = '~'
    · rw [if_pos tilde, tilde]
      exact (contracted_mark _).trans (congrArg ('~' :: ·) inductionHypothesis)
    · rw [if_neg tilde]
      exact (contracted_cons_of_ne tilde _).trans (congrArg (character :: ·) inductionHypothesis)

/-- An escaped segment is read as the segment. -/
theorem segmentOf_escaped (segment : String) :
    segmentOf (segment.toList.flatMap escapedInPointer) = segment := by
  rw [segmentOf, contracted_escapedInPointer, contracted_withTilde, String.ofList_toList]

theorem slash_not_mem_escaped (text : List Char) : '/' ∉ text.flatMap escapedInPointer := by
  intro inside
  obtain ⟨character, _, written⟩ := List.mem_flatMap.mp inside
  rw [escapedInPointer] at written
  split at written
  · exact absurd written (by decide)
  · split at written
    · exact absurd written (by decide)
    · rename_i other
      exact other (List.mem_singleton.mp written).symm

/-- Escaping a segment replaces its tildes first and its slashes after them. -/
theorem flatMap_escapedInPointer (text : List Char) :
    text.flatMap escapedInPointer = (text.flatMap withTilde).flatMap withSlash := by
  rw [List.flatMap_assoc]
  refine List.flatMap_congr fun character _ => ?_
  rw [escapedInPointer, withTilde]
  by_cases tilde : character = '~'
  · rw [if_pos tilde, if_pos tilde]
    rfl
  · rw [if_neg tilde, if_neg tilde, List.flatMap_singleton, withSlash]

/-- The segments of a pointer are its pieces between the slashes, each escaped. -/
theorem pieces_pointerOf (segments : List String) :
    pieces '/' (pointerOf segments).toList =
      [] :: segments.map fun segment => segment.toList.flatMap escapedInPointer := by
  rw [pointerOf, String.toList_ofList]
  exact pieces_flatMap (fun segment : String => segment.toList.flatMap escapedInPointer)
    (fun segment => slash_not_mem_escaped _) segments

theorem map_segmentOf_escaped (segments : List String) :
    (segments.map fun segment => segment.toList.flatMap escapedInPointer).map segmentOf =
      segments := by
  rw [List.map_map]
  exact (List.map_congr_left fun segment _ => segmentOf_escaped segment).trans (List.map_id _)

/-- A pointer leads where its segments lead. -/
theorem lookup?_pointerOf (segments : List String) (value : Json) :
    value.lookup? (pointerOf segments) = value.walk? segments := by
  rw [lookup?, pieces_pointerOf]
  exact congrArg (value.walk? ·) (map_segmentOf_escaped segments)

/-- No two lists of segments have one pointer. -/
theorem pointerOf_injective : Function.Injective pointerOf := by
  intro left right same
  have cut := pieces_pointerOf left
  rw [same, pieces_pointerOf] at cut
  rw [← map_segmentOf_escaped left, ← (List.cons.inj cut).2, map_segmentOf_escaped]

/-! ### One segment at a time -/

/-- A segment names a position exactly if it is its digits; so it has no sign, and no zero in front
of other digits. -/
theorem position?_eq_some_iff {segment : String} {position : Nat} :
    position? segment = some position ↔ segment = String.ofList (digitsOf position) := by
  constructor
  · intro named
    rw [position?] at named
    split at named
    · exact absurd named nofun
    · rename_i first rest shown
      split at named
      · rename_i written
        rw [Bool.and_eq_true, List.all_eq_true, Bool.or_eq_true, bne_iff_ne, List.isEmpty_iff]
          at written
        rw [← Option.some.inj named, digitsOf_digitsValue written.1 written.2, ← shown,
          String.ofList_toList]
      · exact absurd named nofun
  · rintro rfl
    have digits : (digitsOf position).all isDigit = true :=
      List.all_eq_true.mpr fun _ inside => isDigit_of_mem_digitsOf inside
    have value := digitsValue_digitsOf position
    rcases Nat.eq_zero_or_pos position with rfl | positive
    · rfl
    obtain ⟨first, rest, shown⟩ := List.exists_cons_of_ne_nil (digitsOf_ne_nil position)
    have leading : first ≠ '0' := fun zero =>
      head?_digitsOf_ne positive (by rw [shown, zero, List.head?_cons])
    rw [shown] at digits value
    rw [position?, String.toList_ofList, shown]
    dsimp only
    rw [if_pos (by rw [digits, bne_iff_ne.mpr leading]; rfl), value]

/-- A member of an object is the first one with its key. -/
theorem member?_eq_some_iff {key : String} {members : List (String × Json)} {value : Json} :
    member? key members = some value ↔ ∃ before after,
      members = before ++ (key, value) :: after ∧ ∀ entry ∈ before, entry.1 ≠ key := by
  rw [member?, Option.map_eq_some_iff]
  constructor
  · rintro ⟨⟨other, present⟩, found, rfl⟩
    obtain ⟨same, before, after, cut, none⟩ := List.find?_eq_some_iff_append.mp found
    obtain rfl := beq_iff_eq.mp same
    exact ⟨before, after, cut, fun entry inside => by simpa using none entry inside⟩
  · rintro ⟨before, after, cut, none⟩
    exact ⟨(key, value), List.find?_eq_some_iff_append.mpr
      ⟨beq_self_eq_true key, before, after, cut, fun entry inside => by
        simpa using none entry inside⟩, rfl⟩

/-- Where segments lead from a value, one at a time. -/
inductive LeadsTo : List String → Json → Json → Prop where
  /-- No segments lead to the value itself. -/
  | here (value : Json) : LeadsTo [] value value
  /-- In an object, a segment leads to the first member of which it is the key. -/
  | member {key : String} {before after : List (String × Json)} {below found : Json}
    {rest : List String} (first : ∀ entry ∈ before, entry.1 ≠ key)
    (onward : LeadsTo rest below found) :
    LeadsTo (key :: rest) (.record (before ++ (key, below) :: after)) found
  /-- In an array, the digits of a position lead to the item that is there. -/
  | item {position : Nat} {items : List Json} {below found : Json} {rest : List String}
    (there : items[position]? = some below) (onward : LeadsTo rest below found) :
    LeadsTo (String.ofList (digitsOf position) :: rest) (.list items) found

theorem walk?_cons (segment : String) (rest : List String) (value : Json) :
    value.walk? (segment :: rest) = (value.child? segment).bind (walk? rest) := rfl

/-- A walk ends where its segments lead. -/
theorem walk?_eq_some_iff {segments : List String} {value found : Json} :
    value.walk? segments = some found ↔ LeadsTo segments value found := by
  constructor
  · intro walked
    induction segments generalizing value with
    | nil =>
      obtain rfl := Option.some.inj walked
      exact .here value
    | cons segment rest inductionHypothesis =>
      rw [walk?_cons] at walked
      obtain ⟨below, step, onward⟩ := Option.bind_eq_some_iff.mp walked
      cases value with
      | record members =>
        obtain ⟨before, after, rfl, first⟩ := member?_eq_some_iff.mp step
        exact .member first (inductionHypothesis onward)
      | list items =>
        obtain ⟨position, named, there⟩ := Option.bind_eq_some_iff.mp step
        obtain rfl := position?_eq_some_iff.mp named
        exact .item there (inductionHypothesis onward)
      | _ => exact absurd step nofun
  · intro leads
    induction leads with
    | here value => rfl
    | member first _ inductionHypothesis =>
      rw [walk?_cons, child?, member?_eq_some_iff.mpr ⟨_, _, rfl, first⟩, Option.bind_some,
        inductionHypothesis]
    | item there _ inductionHypothesis =>
      rw [walk?_cons, child?, position?_eq_some_iff.mpr rfl, Option.bind_some, there,
        Option.bind_some, inductionHypothesis]

/-- The pointer along segments writes each behind a slash, its tildes replaced first and its slashes
after them. It leads from every value where the segments lead one at a time, and nowhere if they
lead nowhere; and it is the pointer along no other segments. -/
theorem pointer_leads_along_segments (segments : List String) :
    (pointerOf segments).toList = (segments.flatMap fun segment =>
        '/' :: (segment.toList.flatMap withTilde).flatMap withSlash) ∧
    (∀ value : Json, value.lookup? (pointerOf segments) = value.walk? segments ∧
      ∀ found, value.lookup? (pointerOf segments) = some found ↔
        LeadsTo segments value found) ∧
    ∀ others, pointerOf others = pointerOf segments ↔ others = segments := by
  refine ⟨?_, fun value => ⟨lookup?_pointerOf segments value, fun found => ?_⟩, fun others =>
    pointerOf_injective.eq_iff⟩
  · rw [pointerOf, String.toList_ofList]
    exact List.flatMap_congr fun segment _ =>
      congrArg ('/' :: ·) (flatMap_escapedInPointer segment.toList)
  · rw [lookup?_pointerOf]
    exact walk?_eq_some_iff

example : pointerOf ["~1", "a/b", "0"] = "/~01/a~1b/0" ∧
    lookup? "/~01/a~1b/0" (.record [("/", .null), ("~1", .record [("a/b", .list [.integer 7])])]) =
      some (.integer 7) ∧
    lookup? (pointerOf ["00"]) (.list [.integer 7]) = none :=
  ⟨rfl, rfl, rfl⟩

end Json

end Sieve
