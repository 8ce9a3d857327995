/-
This file takes computations that may fail apart: two steps one after another
succeed where both do, and a check of all members of a list succeeds where it does
for each.
-/

import Mathlib

namespace Sieve.Outcome

variable {Error Part Result : Type}

@[simp]
theorem ok_bind (part : Part) (next : Part → Except Error Result) :
    ((.ok part : Except Error Part) >>= next) = next part := rfl

@[simp]
theorem error_bind (error : Error) (next : Part → Except Error Result) :
    ((.error error : Except Error Part) >>= next) = .error error := rfl

@[simp]
theorem pure_eq_ok (part : Part) : (pure part : Except Error Part) = .ok part := rfl

theorem exists_of_isOk {first : Except Error Part} (fine : first.isOk = true) :
    ∃ part, first = .ok part := by
  cases first with
  | error error => exact absurd fine Bool.false_ne_true
  | ok part => exact ⟨part, rfl⟩

theorem exists_of_not_isOk {first : Except Error Part} (failed : (!first.isOk) = true) :
    ∃ error, first = .error error := by
  cases first with
  | error error => exact ⟨error, rfl⟩
  | ok part => exact absurd failed Bool.false_ne_true

theorem bind_eq_ok {first : Except Error Part} {next : Part → Except Error Result}
    {result : Result} :
    (first >>= next) = .ok result ↔ ∃ part, first = .ok part ∧ next part = .ok result := by
  cases first with
  | error error => simp
  | ok part => simp

theorem bind_congr_ok {first : Except Error Part} {next other : Part → Except Error Result}
    (same : ∀ part, first = .ok part → next part = other part) :
    (first >>= next) = (first >>= other) := by
  cases first with
  | error error => rfl
  | ok part => exact same part rfl

theorem mapError_eq_ok {Other : Type} {change : Error → Other} {first : Except Error Part}
    {part : Part} : first.mapError change = .ok part ↔ first = .ok part := by
  cases first <;> simp [Except.mapError]

theorem toOption_eq_some {first : Except Error Part} {part : Part} :
    first.toOption = some part ↔ first = .ok part := by
  cases first <;> simp [Except.toOption]

/-- Steps for all members of a list succeed where each of them does. -/
theorem mapM_eq_ok {Member : Type} {step : Member → Except Error Part} {members : List Member}
    {parts : List Part} :
    members.mapM step = .ok parts ↔
      List.Forall₂ (fun member part => step member = .ok part) members parts := by
  induction members generalizing parts with
  | nil =>
    rw [List.mapM_nil, pure_eq_ok, Except.ok.injEq, List.forall₂_nil_left_iff]
    exact eq_comm
  | cons member rest inductionHypothesis =>
    rw [List.mapM_cons, bind_eq_ok, List.forall₂_cons_left_iff]
    refine exists_congr fun part => ?_
    simp only [bind_eq_ok, inductionHypothesis, pure_eq_ok, Except.ok.injEq]
    constructor
    · rintro ⟨here, others, below, rfl⟩
      exact ⟨others, here, below, rfl⟩
    · rintro ⟨others, here, below, rfl⟩
      exact ⟨here, others, below, rfl⟩

theorem exists_of_mapM_eq_ok {Member : Type} {step : Member → Except Error Part}
    {members : List Member} {parts : List Part} (done : members.mapM step = .ok parts)
    {member : Member} (inside : member ∈ members) : ∃ part, step member = .ok part := by
  induction mapM_eq_ok.mp done with
  | nil => exact absurd inside List.not_mem_nil
  | cons here below inductionHypothesis =>
    rcases List.mem_cons.mp inside with rfl | later
    · exact ⟨_, here⟩
    · exact inductionHypothesis (mapM_eq_ok.mpr below) later

theorem mem_of_mapM_eq_ok {Member : Type} {step : Member → Except Error Part}
    {members : List Member} {parts : List Part} (done : members.mapM step = .ok parts)
    {part : Part} (inside : part ∈ parts) : ∃ member, step member = .ok part := by
  induction mapM_eq_ok.mp done with
  | nil => exact absurd inside List.not_mem_nil
  | cons here below inductionHypothesis =>
    rcases List.mem_cons.mp inside with rfl | later
    · exact ⟨_, here⟩
    · exact inductionHypothesis (mapM_eq_ok.mpr below) later

/-- What is made of the results of some steps is what is made of their sources, if it is for
each. -/
theorem map_of_mapM_eq_ok {Member Image : Type} {step : Member → Except Error Part}
    {after : Part → Image} {before : Member → Image} {members : List Member} {parts : List Part}
    (same : ∀ member ∈ members, ∀ part, step member = .ok part → after part = before member)
    (done : members.mapM step = .ok parts) : parts.map after = members.map before := by
  induction mapM_eq_ok.mp done with
  | nil => rfl
  | cons here below inductionHypothesis =>
    obtain ⟨sameHere, sameBelow⟩ := List.forall_mem_cons.mp same
    rw [List.map_cons, List.map_cons, sameHere _ here,
      inductionHypothesis sameBelow (mapM_eq_ok.mpr below)]

/-- A check of all members succeeds where the check of each does. -/
theorem forM_eq_ok {check : Part → Except Error Unit} {parts : List Part} :
    parts.forM check = .ok () ↔ ∀ part ∈ parts, check part = .ok () := by
  induction parts with
  | nil => exact iff_of_true rfl fun _ member => absurd member List.not_mem_nil
  | cons part rest inductionHypothesis =>
    show (check part >>= fun _ => rest.forM check) = .ok () ↔ _
    rw [bind_eq_ok, List.forall_mem_cons, inductionHypothesis]
    constructor
    · rintro ⟨_, first, others⟩
      exact ⟨first, others⟩
    · rintro ⟨first, others⟩
      exact ⟨_, first, others⟩

/-- A check of all members fails with the error of the first one whose check fails. -/
theorem forM_eq_error {check : Part → Except Error Unit} {parts : List Part} {error : Error} :
    parts.forM check = .error error ↔
      ∃ before part after, parts = before ++ part :: after ∧
        (∀ earlier ∈ before, check earlier = .ok ()) ∧ check part = .error error := by
  induction parts with
  | nil =>
    refine iff_of_false (by simp) ?_
    rintro ⟨before, part, after, empty, _⟩
    exact absurd empty (by simp)
  | cons first rest inductionHypothesis =>
    show (check first >>= fun _ => rest.forM check) = .error error ↔ _
    cases fails : check first with
    | error found =>
      rw [error_bind, Except.error.injEq]
      constructor
      · rintro rfl
        exact ⟨[], first, rest, rfl, fun _ inside => absurd inside List.not_mem_nil, fails⟩
      · rintro ⟨before, part, after, same, earlier, failed⟩
        cases before with
        | nil =>
          obtain ⟨rfl, _⟩ := List.cons.inj same
          exact Except.error.inj (fails.symm.trans failed)
        | cons head others =>
          obtain ⟨rfl, _⟩ := List.cons.inj same
          exact absurd (fails.symm.trans (earlier first List.mem_cons_self)) (by simp)
    | ok =>
      rw [ok_bind, inductionHypothesis]
      constructor
      · rintro ⟨before, part, after, rfl, earlier, failed⟩
        exact ⟨first :: before, part, after, rfl, List.forall_mem_cons.mpr ⟨fails, earlier⟩, failed⟩
      · rintro ⟨before, part, after, same, earlier, failed⟩
        cases before with
        | nil =>
          obtain ⟨rfl, _⟩ := List.cons.inj same
          exact absurd (fails.symm.trans failed) (by simp)
        | cons head others =>
          obtain ⟨rfl, rfl⟩ := List.cons.inj same
          exact ⟨others, part, after, rfl, (List.forall_mem_cons.mp earlier).2, failed⟩

theorem forM_append {check : Part → Except Error Unit} (parts others : List Part) :
    (parts ++ others).forM check = parts.forM check >>= fun _ => others.forM check := by
  induction parts with
  | nil => rfl
  | cons part rest inductionHypothesis =>
    show (check part >>= fun _ => (rest ++ others).forM check) =
      (check part >>= fun _ => rest.forM check) >>= fun _ => others.forM check
    rw [inductionHypothesis, bind_assoc]

theorem forM_congr {check other : Part → Except Error Unit} {parts : List Part}
    (same : ∀ part ∈ parts, check part = other part) : parts.forM check = parts.forM other := by
  induction parts with
  | nil => rfl
  | cons part rest inductionHypothesis =>
    obtain ⟨here, below⟩ := List.forall_mem_cons.mp same
    show (check part >>= fun _ => rest.forM check) = (other part >>= fun _ => rest.forM other)
    rw [here, inductionHypothesis below]

/-- If two checks agree on every member, or else the first fails with an error of some sort, then
so do the checks of all members. -/
theorem forM_congr_or {check other : Part → Except Error Unit} {sort : Error → Prop}
    {parts : List Part}
    (each : ∀ part ∈ parts,
      check part = other part ∨ ∃ error, sort error ∧ check part = .error error) :
    parts.forM check = parts.forM other ∨
      ∃ error, sort error ∧ parts.forM check = .error error := by
  induction parts with
  | nil => exact .inl rfl
  | cons part rest inductionHypothesis =>
    show (check part >>= fun _ => rest.forM check) = (other part >>= fun _ => rest.forM other) ∨
      ∃ error, sort error ∧ (check part >>= fun _ => rest.forM check) = .error error
    obtain ⟨here, below⟩ := List.forall_mem_cons.mp each
    rcases here with same | ⟨error, sorted, failed⟩
    · rw [same]
      cases other part with
      | error error => exact .inl rfl
      | ok => exact inductionHypothesis below
    · exact .inr ⟨error, sorted, by rw [failed]; rfl⟩

/-! ### Errors that are avoided -/

/-- A computation does not fail with an error of some sort. -/
def Avoids (sort : Error → Prop) (first : Except Error Part) : Prop :=
  ∀ error, first = .error error → ¬sort error

section Avoids

variable {sort : Error → Prop}

theorem avoids_ok (part : Part) : Avoids sort (.ok part) :=
  fun _ failed => absurd failed (by simp)

theorem avoids_error {error : Error} (other : ¬sort error) :
    Avoids sort (.error error : Except Error Part) :=
  fun _ failed => Except.error.inj failed ▸ other

theorem Avoids.bind {first : Except Error Part} {next : Part → Except Error Result}
    (here : Avoids sort first) (below : ∀ part, Avoids sort (next part)) :
    Avoids sort (first >>= next) := by
  cases first with
  | error error => exact avoids_error (here error rfl)
  | ok part => exact below part

theorem Avoids.forM {check : Part → Except Error Unit} (each : ∀ part, Avoids sort (check part))
    (parts : List Part) : Avoids sort (parts.forM check) := by
  induction parts with
  | nil => exact avoids_ok ()
  | cons part rest inductionHypothesis => exact (each part).bind fun _ => inductionHypothesis

end Avoids

/-! ### Verdicts -/

/-- Whether a computation succeeds, and the error with which it fails if it does not. -/
def verdict (first : Except Error Part) : Except Error Unit :=
  first.map fun _ => ()

@[simp]
theorem verdict_ok (part : Part) : verdict (.ok part : Except Error Part) = .ok () := rfl

@[simp]
theorem verdict_error (error : Error) : verdict (.error error : Except Error Part) = .error error :=
  rfl

theorem verdict_eq_ok {first : Except Error Part} :
    verdict first = .ok () ↔ ∃ part, first = .ok part := by
  cases first <;> simp

theorem verdict_eq_error {first : Except Error Part} {error : Error} :
    verdict first = .error error ↔ first = .error error := by
  cases first <;> simp

theorem verdict_bind (first : Except Error Part) (next : Part → Except Error Result) :
    verdict (first >>= next) = first >>= fun part => verdict (next part) := by
  cases first <;> rfl

/-- The verdict on two steps of which the second uses nothing of the first. -/
theorem bind_verdict (first : Except Error Part) (next : Except Error Result) :
    (verdict first >>= fun _ => next) = first >>= fun _ => next := by
  cases first <;> rfl

/-- The verdict on steps for all members of a list is that of checking them one after another. -/
theorem verdict_mapM {Member : Type} (step : Member → Except Error Part) (members : List Member) :
    verdict (members.mapM step) = members.forM fun member => verdict (step member) := by
  induction members with
  | nil => rfl
  | cons member rest inductionHypothesis =>
    show _ = (verdict (step member) >>= fun _ => rest.forM fun member => verdict (step member))
    rw [← inductionHypothesis, bind_verdict, List.mapM_cons, verdict_bind]
    cases step member with
    | error error => rfl
    | ok part => cases rest.mapM step <;> rfl

end Sieve.Outcome
