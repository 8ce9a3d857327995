/-
This file proves which error a predicate fails with. Leaves are compiled from left to
right, so it is the error of the first leaf that cannot be compiled. A path at which a
type has no field is an error of every leaf that mentions it, whatever else the leaf
asks, since a field is looked up before anything is done with it. In a comparison of two
fields the right one is looked up after the left one has been found to support the
comparison, and this is the one error that can come before that of an undeclared path.
-/

import Sieve.Proofs.Predicate.Verdict
import Sieve.Proofs.Text.Basic

namespace Sieve

open Outcome

/-! ### Paths -/

namespace Predicate

mutual

/-- The paths of a predicate are those of its leaves, one leaf after another. -/
theorem paths_eq_flatMap (predicate : Predicate) :
    predicate.paths = predicate.leaves.flatMap paths := by
  cases predicate with
  | all parts => exact pathsOfAll_eq_flatMap parts
  | any parts => exact pathsOfAll_eq_flatMap parts
  | not part => exact paths_eq_flatMap part
  | _ => exact (List.flatMap_singleton _ _).symm

theorem pathsOfAll_eq_flatMap (parts : List Predicate) :
    pathsOfAll parts = (leavesOfAll parts).flatMap paths := by
  cases parts with
  | nil => rfl
  | cons part rest =>
    rw [pathsOfAll, leavesOfAll, List.flatMap_append, paths_eq_flatMap part,
      pathsOfAll_eq_flatMap rest]

end

end Predicate

namespace Catalog

/-- Whether a type has a field at a path. -/
def Declares (catalog : Catalog) (typeName path : String) : Prop :=
  ∃ field, catalog.resolve typeName path = .ok field

/-- Whether a path is the first of some paths at which a type has no field. -/
def FirstUndeclared (catalog : Catalog) (typeName : String) (paths : List String)
    (path : String) : Prop :=
  ∃ before after, paths = before ++ path :: after ∧
    (∀ earlier ∈ before, catalog.Declares typeName earlier) ∧ ¬catalog.Declares typeName path

/-- There is one first undeclared path. -/
theorem FirstUndeclared.unique {catalog : Catalog} {typeName left right : String}
    {paths : List String} (leftFirst : catalog.FirstUndeclared typeName paths left)
    (rightFirst : catalog.FirstUndeclared typeName paths right) : left = right := by
  obtain ⟨_, _, rfl, leftDeclared, leftAbsent⟩ := leftFirst
  obtain ⟨_, _, same, rightDeclared, rightAbsent⟩ := rightFirst
  exact (Text.append_cons_first_inj leftDeclared rightDeclared leftAbsent rightAbsent same).2.1

/-- Whether a leaf compares a field with another one in a way that the kind of the first does not
support. -/
def RefusesLeft (catalog : Catalog) (typeName : String) (leaf : Predicate) (field : Field)
    (comparison : Comparison) : Prop :=
  ∃ left right, leaf = .compare (.field left) comparison (.field right) ∧
    catalog.resolve typeName left = .ok field ∧
    field.kind.supports comparison.operatorClass = false

variable {catalog : Catalog} {typeName path : String} {documentType : DocumentType}

/-! ### Leaves with an undeclared path -/

section

variable (described : catalog.describe typeName = .ok documentType)

include described

theorem resolve_of_undeclared (undeclared : ¬catalog.Declares typeName path) :
    catalog.resolve typeName path = .error (.unknownField typeName path) := by
  cases found : documentType.field? path with
  | none => simp only [resolve, described, found]
  | some field => exact absurd ⟨field, resolve_eq_ok.mpr ⟨_, described, found⟩⟩ undeclared

theorem literalAccess_of_undeclared (undeclared : ¬catalog.Declares typeName path)
    (operator : Operator) :
    catalog.literalAccess typeName path operator = .error (.unknownField typeName path) := by
  rw [literalAccess, resolve_of_undeclared described undeclared, error_bind]

theorem fieldAccess_of_undeclared (undeclared : ¬catalog.Declares typeName path)
    (operator : Operator) :
    catalog.fieldAccess typeName path operator = .error (.unknownField typeName path) := by
  rw [fieldAccess, resolve_of_undeclared described undeclared, error_bind]

theorem compileComparison_of_undeclared (undeclared : ¬catalog.Declares typeName path)
    (comparison : Comparison) (value : Literal) :
    catalog.compileComparison typeName path comparison value =
      .error (.unknownField typeName path) := by
  rw [compileComparison]
  split
  · rw [literalAccess_of_undeclared described undeclared, error_bind]
  · rw [literalAccess_of_undeclared described undeclared, error_bind]

/-- Where the right of two fields is undeclared, the left one is still asked for the comparison. -/
theorem compileFields_of_undeclared_right {left right : String} {field : Field}
    (found : catalog.resolve typeName left = .ok field)
    (undeclared : ¬catalog.Declares typeName right) (comparison : Comparison) :
    catalog.compileFields typeName left comparison right =
      if field.kind.supports comparison.operatorClass then .error (.unknownField typeName right)
      else .error (.unsupported (.undefined field.path (.compare comparison) field.kind)) := by
  rw [compileFields, fieldAccess, found, ok_bind, Field.fieldAccess_eq (storable_of_resolve found)]
  show ((if field.kind.supports comparison.operatorClass then _ else _) >>= _) = _
  split
  · rw [ok_bind, fieldAccess_of_undeclared described undeclared, error_bind]
  · rw [error_bind]

end

/-! ### The first leaf with an undeclared path -/

/-- How a predicate fails where a leaf is the first to mention an undeclared path: with this path,
unless the leaf compares two fields and the left one refuses the comparison. -/
structure FailsAt (catalog : Catalog) (typeName : String) (predicate leaf : Predicate)
    (path : String) : Prop where
  /-- The path is the first one of the predicate that is undeclared. -/
  first : catalog.FirstUndeclared typeName predicate.paths path
  /-- The kind of the left of two fields is looked at before the right one is looked up. -/
  refused : ∀ field comparison, catalog.RefusesLeft typeName leaf field comparison →
    catalog.compile typeName predicate =
      .error (.unsupported (.undefined field.path (.compare comparison) field.kind))
  /-- In all other cases the path is the error. -/
  unknown : (∀ field comparison, ¬catalog.RefusesLeft typeName leaf field comparison) →
    catalog.compile typeName predicate = .error (.unknownField typeName path)

/-- A leaf with one field fails at its path. -/
theorem failsAt_of_single {leaf : Predicate} (only : leaf.paths = [path])
    (single : ∀ left comparison right, leaf ≠ .compare (.field left) comparison (.field right))
    (undeclared : ¬catalog.Declares typeName path)
    (failed : catalog.compile typeName leaf = .error (.unknownField typeName path)) :
    catalog.FailsAt typeName leaf leaf path where
  first := ⟨[], [], only, fun _ none => absurd none List.not_mem_nil, undeclared⟩
  refused := by
    rintro field comparison ⟨left, right, same, _⟩
    exact absurd same (single left comparison right)
  unknown := fun _ => failed

section

variable (described : catalog.describe typeName = .ok documentType)

include described

/-- A comparison of two fields fails at the left one if it is undeclared, else at the right one. -/
theorem exists_failsAt_of_fields {left right : String} (comparison : Comparison)
    (undeclared : ∃ path ∈ [left, right], ¬catalog.Declares typeName path) :
    ∃ path, catalog.FailsAt typeName (.compare (.field left) comparison (.field right))
      (.compare (.field left) comparison (.field right)) path := by
  by_cases declared : catalog.Declares typeName left
  · obtain ⟨field, found⟩ := declared
    have absent : ¬catalog.Declares typeName right := by
      obtain ⟨path, member, undeclared⟩ := undeclared
      rcases List.mem_pair.mp member with rfl | rfl
      · exact absurd ⟨field, found⟩ undeclared
      · exact undeclared
    have compiled := compileFields_of_undeclared_right described found absent comparison
    refine ⟨right, ⟨[left], [], rfl, List.forall_mem_singleton.mpr ⟨field, found⟩, absent⟩, ?_, ?_⟩
    · rintro other _ ⟨_, _, same, otherFound, refuses⟩
      obtain ⟨sameLeft, rfl, _⟩ := Predicate.compare.inj same
      obtain rfl := Operand.field.inj sameLeft
      obtain rfl := Except.ok.inj (found.symm.trans otherFound)
      rw [if_neg (by simp [refuses])] at compiled
      exact compiled
    · intro accepts
      have supported : field.kind.supports comparison.operatorClass = true := by
        by_contra refuses
        exact accepts field comparison ⟨left, right, rfl, found, Bool.eq_false_iff.mpr refuses⟩
      rw [if_pos supported] at compiled
      exact compiled
  · refine ⟨left, ⟨[], [right], rfl, fun _ none => absurd none List.not_mem_nil, declared⟩, ?_, ?_⟩
    · rintro field _ ⟨_, _, same, found, _⟩
      obtain ⟨sameLeft, _⟩ := Predicate.compare.inj same
      obtain rfl := Operand.field.inj sameLeft
      exact absurd ⟨field, found⟩ declared
    · intro _
      show catalog.compileFields typeName left comparison right = _
      rw [compileFields, fieldAccess_of_undeclared described declared, error_bind]

/-- A leaf that mentions an undeclared path fails, whatever kind of leaf it is. -/
theorem exists_failsAt_of_leaf {leaf : Predicate} (single : leaf.isLeaf = true)
    (undeclared : ∃ path ∈ leaf.paths, ¬catalog.Declares typeName path) :
    ∃ path, catalog.FailsAt typeName leaf leaf path := by
  obtain ⟨path, member, absent⟩ := undeclared
  have unread := literalAccess_of_undeclared described absent
  cases leaf with
  | all parts => exact absurd single Bool.false_ne_true
  | any parts => exact absurd single Bool.false_ne_true
  | not part => exact absurd single Bool.false_ne_true
  | compare left comparison right =>
    cases left with
    | field leftPath =>
      cases right with
      | field rightPath =>
        exact exists_failsAt_of_fields described comparison ⟨path, member, absent⟩
      | literal value =>
        obtain rfl := List.mem_singleton.mp member
        exact ⟨path, failsAt_of_single rfl (by simp) absent
          (compileComparison_of_undeclared described absent comparison value)⟩
    | literal value =>
      cases right with
      | field rightPath =>
        obtain rfl := List.mem_singleton.mp member
        exact ⟨path, failsAt_of_single rfl (by simp) absent
          (compileComparison_of_undeclared described absent comparison.flip value)⟩
      | literal other => exact absurd member List.not_mem_nil
  | member _ values negated =>
    obtain rfl := List.mem_singleton.mp member
    refine ⟨path, failsAt_of_single rfl (by simp) absent ?_⟩
    rw [compile, compileMember, unread, error_bind]
  | between _ low high =>
    obtain rfl := List.mem_singleton.mp member
    refine ⟨path, failsAt_of_single rfl (by simp) absent ?_⟩
    rw [compile, compileBetween, unread, error_bind]
  | isNull _ negated =>
    obtain rfl := List.mem_singleton.mp member
    refine ⟨path, failsAt_of_single rfl (by simp) absent ?_⟩
    rw [compile, unread, error_bind]
  | text _ textMatch value ignoresCase =>
    obtain rfl := List.mem_singleton.mp member
    refine ⟨path, failsAt_of_single rfl (by simp) absent ?_⟩
    rw [compile, compileText, unread, error_bind]

end

/-- What fails at a path is not compiled. -/
theorem FailsAt.exists_rejection {predicate leaf : Predicate}
    (fails : catalog.FailsAt typeName predicate leaf path) :
    ∃ rejection, catalog.compile typeName predicate = .error rejection := by
  by_cases refuses : ∃ field comparison, catalog.RefusesLeft typeName leaf field comparison
  · obtain ⟨field, comparison, refuses⟩ := refuses
    exact ⟨_, fails.refused field comparison refuses⟩
  · refine ⟨_, fails.unknown fun field comparison holds => refuses ⟨field, comparison, holds⟩⟩

/-- All paths of a leaf that is compiled are declared. -/
theorem declares_of_compile (described : catalog.describe typeName = .ok documentType)
    {leaf : Predicate} (single : leaf.isLeaf = true)
    (compiled : ∃ filter, catalog.compile typeName leaf = .ok filter) :
    ∀ path ∈ leaf.paths, catalog.Declares typeName path := by
  intro path member
  by_contra undeclared
  obtain ⟨_, fails⟩ := exists_failsAt_of_leaf described single ⟨path, member, undeclared⟩
  obtain ⟨rejection, failed⟩ := fails.exists_rejection
  obtain ⟨filter, done⟩ := compiled
  exact absurd (done.symm.trans failed) (by simp)

/-- A predicate fails as a leaf does before which all others are compiled. -/
theorem FailsAt.of_leaf (described : catalog.describe typeName = .ok documentType)
    {predicate leaf : Predicate} {before after : List Predicate}
    (split : predicate.leaves = before ++ leaf :: after)
    (earlier : ∀ other ∈ before, ∃ filter, catalog.compile typeName other = .ok filter)
    (fails : catalog.FailsAt typeName leaf leaf path) :
    catalog.FailsAt typeName predicate leaf path where
  first := by
    obtain ⟨front, back, paths, declared, undeclared⟩ := fails.first
    refine ⟨before.flatMap Predicate.paths ++ front, back ++ after.flatMap Predicate.paths, ?_,
      fun other member => ?_, undeclared⟩
    · rw [Predicate.paths_eq_flatMap, split, List.flatMap_append, List.flatMap_cons, paths]
      simp only [List.append_assoc, List.cons_append]
    · rcases List.mem_append.mp member with inBefore | inFront
      · obtain ⟨part, partMember, inside⟩ := List.mem_flatMap.mp inBefore
        have single : part.isLeaf = true :=
          Predicate.isLeaf_of_mem_leaves (split ▸ List.mem_append_left _ partMember)
        exact declares_of_compile described single (earlier part partMember) other inside
      · exact declared other inFront
  refused := fun field comparison refuses =>
    compile_eq_error.mpr ⟨before, leaf, after, split, earlier,
      fails.refused field comparison refuses⟩
  unknown := fun accepts =>
    compile_eq_error.mpr ⟨before, leaf, after, split, earlier, fails.unknown accepts⟩

/-- A predicate is compiled where each of its leaves is, and otherwise it fails with the error of
the first leaf that is not. It is not compiled if it mentions an undeclared path; and if all leaves
before the first one that does are compiled, the error is the first undeclared path of the
predicate, unless that leaf compares two fields of which the left one refuses the comparison. -/
theorem compile_fails_at_first_fault (described : catalog.describe typeName = .ok documentType)
    (predicate : Predicate) :
    ((∃ filter, catalog.compile typeName predicate = .ok filter) ↔
        ∀ leaf ∈ predicate.leaves, ∃ filter, catalog.compile typeName leaf = .ok filter) ∧
      (∀ rejection, catalog.compile typeName predicate = .error rejection ↔
        ∃ before leaf after, predicate.leaves = before ++ leaf :: after ∧
          (∀ earlier ∈ before, ∃ filter, catalog.compile typeName earlier = .ok filter) ∧
          catalog.compile typeName leaf = .error rejection) ∧
      ((∃ path ∈ predicate.paths, ¬catalog.Declares typeName path) →
        ∃ rejection, catalog.compile typeName predicate = .error rejection) ∧
      ∀ before leaf after, predicate.leaves = before ++ leaf :: after →
        (∀ earlier ∈ before, ∃ filter, catalog.compile typeName earlier = .ok filter) →
        (∃ path ∈ leaf.paths, ¬catalog.Declares typeName path) →
        ∃ path, catalog.FailsAt typeName predicate leaf path := by
  refine ⟨exists_compile_iff, fun _ => compile_eq_error, ?_, ?_⟩
  · rintro ⟨path, member, undeclared⟩
    rw [Predicate.paths_eq_flatMap] at member
    obtain ⟨leaf, inside, mentioned⟩ := List.mem_flatMap.mp member
    cases compiled : catalog.compile typeName predicate with
    | error rejection => exact ⟨rejection, rfl⟩
    | ok filter =>
      have declared := declares_of_compile described (Predicate.isLeaf_of_mem_leaves inside)
        (exists_compile_iff.mp ⟨filter, compiled⟩ leaf inside)
      exact absurd (declared path mentioned) undeclared
  · intro before leaf after split earlier undeclared
    have inside : leaf ∈ predicate.leaves :=
      split ▸ List.mem_append_right before List.mem_cons_self
    obtain ⟨path, fails⟩ :=
      exists_failsAt_of_leaf described (Predicate.isLeaf_of_mem_leaves inside) undeclared
    exact ⟨path, fails.of_leaf described split earlier⟩

/-- An empty list of literals does not hide an undeclared path, nor does a null; where meetings are
compared by their identifiers, which have no order, this is found out before the path is. -/
theorem compile_meetings_fails_at_first_fault :
    (Catalog.meetings .extracted rfl).describe "Meeting" = .ok (.meeting .extracted) ∧
      (Catalog.meetings .extracted rfl).compile "Meeting"
          (.all [.isNull "Start" true, .not (.member "Room" [] false),
            .compare (.field "Seats") .eq (.literal .null)]) =
        .error (.unknownField "Meeting" "Room") ∧
      (Catalog.meetings .extracted rfl).compile "Meeting"
          (.any [.isNull "Start" true, .compare (.field "Id") .lt (.field "Room")]) =
        .error (.unsupported (.undefined "Id" (.compare .lt) .uuid)) := by
  have room : ¬(Catalog.meetings .extracted rfl).Declares "Meeting" "Room" := by
    rintro ⟨field, found⟩
    have none : (Catalog.meetings .extracted rfl).resolve "Meeting" "Room" =
        .error (.unknownField "Meeting" "Room") := rfl
    exact absurd (none.symm.trans found) (by simp)
  have start : (Catalog.meetings .extracted rfl).Declares "Meeting" "Start" := ⟨_, rfl⟩
  refine ⟨rfl, ?_, ?_⟩
  · obtain ⟨path, fails⟩ := (compile_fails_at_first_fault rfl
      (.all [.isNull "Start" true, .not (.member "Room" [] false),
        .compare (.field "Seats") .eq (.literal .null)])).2.2.2
      [.isNull "Start" true] (.member "Room" [] false)
      [.compare (.field "Seats") .eq (.literal .null)] rfl
      (List.forall_mem_singleton.mpr ⟨_, rfl⟩) ⟨"Room", List.mem_singleton_self _, room⟩
    obtain rfl := fails.first.unique
      ⟨["Start"], ["Seats"], rfl, List.forall_mem_singleton.mpr start, room⟩
    refine fails.unknown ?_
    rintro field comparison ⟨left, right, same, _⟩
    exact absurd same (by simp)
  · obtain ⟨path, fails⟩ := (compile_fails_at_first_fault rfl
      (.any [.isNull "Start" true, .compare (.field "Id") .lt (.field "Room")])).2.2.2
      [.isNull "Start" true] (.compare (.field "Id") .lt (.field "Room")) [] rfl
      (List.forall_mem_singleton.mpr ⟨_, rfl⟩)
      ⟨"Room", List.mem_cons_of_mem _ (List.mem_singleton_self _), room⟩
    exact fails.refused ⟨"Id", .uuid, .extracted⟩ .lt ⟨"Id", "Room", rfl, rfl, rfl⟩

end Catalog

end Sieve
