/-
This file says what setting a value at the end of a path does to a document. The value
is there afterwards, and whatever stands on a path that does not meet this one is as it
was; only the objects on the way can be new. Objects are made on the way down, before it
is known whether the end can be reached; but it is only missed at a value that was there
before, above which nothing was missing, so that a failure leaves the document as it was.
-/

import Sieve.Store.Document

namespace Sieve

namespace Json

/-! ### Members -/

variable {key other : String} {value present : Json} {members : List (String × Json)}

theorem member?_cons_self (key : String) (value : Json) (rest : List (String × Json)) :
    member? key ((key, value) :: rest) = some value := by
  rw [member?, List.find?_cons, beq_self_eq_true]
  rfl

theorem member?_cons_of_ne (different : key ≠ other) (value : Json)
    (rest : List (String × Json)) :
    member? key ((other, value) :: rest) = member? key rest := by
  rw [member?, List.find?_cons, beq_eq_false_iff_ne.mpr (Ne.symm different)]
  rfl

theorem member?_setMember_self (key : String) (value : Json) (members : List (String × Json)) :
    member? key (setMember key value members) = some value := by
  induction members with
  | nil => exact member?_cons_self key value []
  | cons entry rest inductionHypothesis =>
    rw [setMember]
    split
    · exact member?_cons_self key value _
    · rename_i different
      split
      · exact member?_cons_self key value _
      · rw [member?_cons_of_ne different, inductionHypothesis]

theorem member?_setMember_of_ne (different : other ≠ key) (value : Json)
    (members : List (String × Json)) :
    member? other (setMember key value members) = member? other members := by
  induction members with
  | nil => exact member?_cons_of_ne different value []
  | cons entry rest inductionHypothesis =>
    obtain ⟨name, present⟩ := entry
    rw [setMember]
    split
    · rename_i same
      subst same
      rw [member?_cons_of_ne different, member?_cons_of_ne different]
    · split
      · exact member?_cons_of_ne different value _
      · by_cases here : other = name
        · rw [here, member?_cons_self, member?_cons_self]
        · rw [member?_cons_of_ne here, member?_cons_of_ne here, inductionHypothesis]

theorem replaceMember_of_member? (inside : member? key members = some present) :
    replaceMember key present members = members := by
  induction members with
  | nil => rfl
  | cons entry rest inductionHypothesis =>
    obtain ⟨other, value⟩ := entry
    rw [replaceMember]
    split
    · rename_i same
      subst same
      rw [member?_cons_self] at inside
      rw [Option.some.inj inside]
    · rename_i different
      rw [member?_cons_of_ne different] at inside
      rw [inductionHypothesis inside]

theorem member?_replaceMember_self (inside : member? key members = some present) (value : Json) :
    member? key (replaceMember key value members) = some value := by
  induction members with
  | nil => exact absurd inside nofun
  | cons entry rest inductionHypothesis =>
    rw [replaceMember]
    split
    · rename_i same
      rw [← same, member?_cons_self]
    · rename_i different
      rw [member?_cons_of_ne different] at inside ⊢
      exact inductionHypothesis inside

theorem member?_replaceMember_of_ne (different : other ≠ key) (value : Json)
    (members : List (String × Json)) :
    member? other (replaceMember key value members) = member? other members := by
  induction members with
  | nil => rfl
  | cons entry rest inductionHypothesis =>
    obtain ⟨name, present⟩ := entry
    rw [replaceMember]
    split
    · rename_i same
      subst same
      rw [member?_cons_of_ne different, member?_cons_of_ne different]
    · by_cases here : other = name
      · rw [here, member?_cons_self, member?_cons_self]
      · rw [member?_cons_of_ne here, member?_cons_of_ne here, inductionHypothesis]

/-! ### Ways down -/

/-- The value one key below a value: a member, if the value is an object. -/
def key? (key : String) : Json → Option Json
  | .record members => member? key members
  | _ => none

/-- Whether steps lead from an object to its members. Steps by keys and steps by segments both do;
the latter lead into arrays as well. -/
def LeadsToMembers (step : String → Json → Option Json) : Prop :=
  ∀ segment members, step segment (.record members) = member? segment members

theorem leadsToMembers_key? : LeadsToMembers key? :=
  fun _ _ => rfl

theorem leadsToMembers_child? : LeadsToMembers child? :=
  fun _ _ => rfl

/-- The value that steps lead to, one after another. -/
def follow? (step : String → Json → Option Json) (segments : List String) (value : Json) :
    Option Json :=
  segments.foldlM (fun current segment => step segment current) value

theorem follow?_cons (step : String → Json → Option Json) (segment : String) (rest : List String)
    (value : Json) :
    follow? step (segment :: rest) value = (step segment value).bind (follow? step rest) := rfl

/-- The value that keys lead to, one after another. -/
def keys? (keys : List String) (value : Json) : Option Json :=
  follow? key? keys value

/-- In an object without members no path leads anywhere, but the one that stays. -/
theorem follow?_empty {step : String → Json → Option Json} (leads : LeadsToMembers step)
    {segments : List String} (moves : segments ≠ []) :
    follow? step segments (.record []) = none := by
  cases segments with
  | nil => exact absurd rfl moves
  | cons segment rest =>
    rw [follow?_cons, leads]
    rfl

/-! ### Values at the end of a path -/

variable {path : String} {before after : Json} {segments : List String}

/-- An object that differs from another one in one member. -/
structure ChangedAt (segment : String) (below : Json) (members changed : List (String × Json)) :
    Prop where
  /-- The member is there. -/
  self : member? segment changed = some below
  /-- The others are as they were. -/
  others : ∀ other, other ≠ segment → member? other changed = member? other members

theorem changedAt_setMember (segment : String) (below : Json) (members : List (String × Json)) :
    ChangedAt segment below members (setMember segment below members) where
  self := member?_setMember_self segment below members
  others _ different := member?_setMember_of_ne different below members

theorem changedAt_replaceMember {segment : String} {present : Json}
    {members : List (String × Json)} (inside : member? segment members = some present)
    (below : Json) : ChangedAt segment below members (replaceMember segment below members) where
  self := member?_replaceMember_self inside below
  others _ different := member?_replaceMember_of_ne different below members

/-- What a path does to an object that has the member it goes through. -/
theorem insertAt_of_member? {segment : String} {rest : List String}
    {members : List (String × Json)} {present : Json} (moves : rest ≠ [])
    (inside : member? segment members = some present) :
    insertAt path value (segment :: rest) (.record members) =
      ((insertAt path value rest present).1,
        .record (replaceMember segment (insertAt path value rest present).2 members)) := by
  rw [insertAt.eq_4 _ _ _ _ _ moves, inside]

/-- What a path does to an object that lacks the member it goes through. -/
theorem insertAt_of_missing {segment : String} {rest : List String}
    {members : List (String × Json)} (moves : rest ≠ [])
    (missing : member? segment members = none) :
    insertAt path value (segment :: rest) (.record members) =
      ((insertAt path value rest (.record [])).1,
        .record (setMember segment (insertAt path value rest (.record [])).2 members)) := by
  rw [insertAt.eq_4 _ _ _ _ _ moves, missing]

/-- A value is set in an object, either as a member or inside the member that leads on. -/
theorem exists_of_insertAt {segment : String} {rest : List String}
    (done : insertAt path value (segment :: rest) before = (.ok (), after)) :
    ∃ members changed below, before = .record members ∧ after = .record changed ∧
      ChangedAt segment below members changed ∧
      (rest = [] ∧ below = value ∨ rest ≠ [] ∧
        insertAt path value rest ((member? segment members).getD (.record [])) =
          (.ok (), below)) := by
  cases before with
  | record members =>
    by_cases last : rest = []
    · subst last
      obtain ⟨-, rfl⟩ := Prod.mk.inj done
      exact ⟨members, _, value, rfl, rfl, changedAt_setMember segment value members,
        .inl ⟨rfl, rfl⟩⟩
    · cases inside : member? segment members with
      | some present =>
        rw [insertAt_of_member? last inside] at done
        obtain ⟨outcome, rfl⟩ := Prod.mk.inj done
        exact ⟨members, _, _, rfl, rfl, changedAt_replaceMember inside _,
          .inr ⟨last, Prod.ext (inside ▸ outcome) (inside ▸ rfl)⟩⟩
      | none =>
        rw [insertAt_of_missing last inside] at done
        obtain ⟨outcome, rfl⟩ := Prod.mk.inj done
        exact ⟨members, _, _, rfl, rfl, changedAt_setMember segment _ members,
          .inr ⟨last, Prod.ext (inside ▸ outcome) (inside ▸ rfl)⟩⟩
  | _ => cases rest <;> exact absurd (congrArg Prod.fst done) nofun

section

variable {step : String → Json → Option Json}

/-- What is set at the end of a path is found there. -/
theorem follow?_insertAt (leads : LeadsToMembers step)
    (done : insertAt path value segments before = (.ok (), after)) :
    follow? step segments after = some value := by
  induction segments generalizing before after with
  | nil => exact absurd (congrArg Prod.fst done) nofun
  | cons segment rest inductionHypothesis =>
    obtain ⟨members, changed, below, rfl, rfl, at', way⟩ := exists_of_insertAt done
    rw [follow?_cons, leads, at'.self, Option.bind_some]
    rcases way with ⟨rfl, rfl⟩ | ⟨_, inserted⟩
    · rfl
    · exact inductionHypothesis inserted

/-- What stands on a path that neither leads to the end nor leads on from it is as it was. -/
theorem follow?_insertAt_of_apart (leads : LeadsToMembers step)
    (done : insertAt path value segments before = (.ok (), after)) {other : List String}
    (notBefore : ¬other <+: segments) (notAfter : ¬segments <+: other) :
    follow? step other after = follow? step other before := by
  induction segments generalizing before after other with
  | nil => exact absurd (congrArg Prod.fst done) nofun
  | cons segment rest inductionHypothesis =>
    obtain ⟨members, changed, below, rfl, rfl, at', way⟩ := exists_of_insertAt done
    cases other with
    | nil => exact absurd List.nil_prefix notBefore
    | cons name others =>
      rw [follow?_cons, follow?_cons, leads, leads]
      by_cases same : name = segment
      · subst same
        rw [List.cons_prefix_cons, not_and] at notBefore notAfter
        have moves : others ≠ [] := fun none => notBefore rfl (none ▸ List.nil_prefix)
        rw [at'.self, Option.bind_some]
        rcases way with ⟨rfl, _⟩ | ⟨_, inserted⟩
        · exact absurd List.nil_prefix (notAfter rfl)
        · rw [inductionHypothesis inserted (notBefore rfl) (notAfter rfl)]
          cases member? name members with
          | some present => rfl
          | none => exact follow?_empty leads moves
      · rw [at'.others name same]

/-- What stands on the way to the end of a path is an object afterwards, and was one before if it
was there. -/
theorem parents_of_insertAt (leads : LeadsToMembers step)
    (done : insertAt path value segments before = (.ok (), after)) {other : List String}
    (above : other <+: segments) (proper : other ≠ segments) :
    (∃ members, follow? step other after = some (.record members)) ∧
      ∀ found, follow? step other before = some found → ∃ members, found = .record members := by
  induction segments generalizing before after other with
  | nil => exact absurd (congrArg Prod.fst done) nofun
  | cons segment rest inductionHypothesis =>
    obtain ⟨members, changed, below, rfl, rfl, at', way⟩ := exists_of_insertAt done
    cases other with
    | nil => exact ⟨⟨_, rfl⟩, fun found here => ⟨members, (Option.some.inj here).symm⟩⟩
    | cons name others =>
      obtain ⟨rfl, shorter⟩ := List.cons_prefix_cons.mp above
      have proper : others ≠ rest := fun same => proper (congrArg (name :: ·) same)
      rcases way with ⟨rfl, _⟩ | ⟨_, inserted⟩
      · exact absurd (List.prefix_nil.mp shorter) proper
      · obtain ⟨isObject, wasObject⟩ := inductionHypothesis inserted shorter proper
        rw [follow?_cons, leads, at'.self, Option.bind_some]
        refine ⟨isObject, fun found here => ?_⟩
        rw [follow?_cons, leads] at here
        obtain ⟨present, inside, there⟩ := Option.bind_eq_some_iff.mp here
        rw [inside] at wasObject
        exact wasObject found there

end

/-- A value that differs from another one at the end of some segments alone, where it has a given
value. -/
structure SetAt (segments : List String) (value before after : Json) : Prop where
  /-- The segments lead on from the value itself. -/
  moves : segments ≠ []
  /-- The given value is there. -/
  set : after.walk? segments = some value
  /-- What stands on the way there is an object now, and was one if it was there before. -/
  parents : ∀ path, path <+: segments → path ≠ segments →
    (∃ members, after.walk? path = some (.record members)) ∧
      ∀ found, before.walk? path = some found → ∃ members, found = .record members
  /-- What stands on a path that neither leads there nor leads on from there is as it was. -/
  kept : ∀ path, ¬path <+: segments → ¬segments <+: path → after.walk? path = before.walk? path

/-- What is set at the end of a path is there, and nothing else has changed. -/
theorem setAt_of_insertAt (done : insertAt path value segments before = (.ok (), after)) :
    SetAt segments value before after where
  moves := by
    rintro rfl
    exact absurd (congrArg Prod.fst done) nofun
  set := follow?_insertAt leadsToMembers_child? done
  parents _ := parents_of_insertAt leadsToMembers_child? done
  kept _ := follow?_insertAt_of_apart leadsToMembers_child? done

/-- What a value is set in is an object. -/
theorem SetAt.exists_record (set : SetAt segments value before after) :
    ∃ members, after = .record members := by
  obtain ⟨⟨members, here⟩, _⟩ := set.parents [] List.nil_prefix (Ne.symm set.moves)
  exact ⟨members, Option.some.inj here⟩

/-! ### Ends that are not reached -/

/-- In an object without members every path that moves reaches its end. -/
theorem insertAt_empty (moves : segments ≠ []) :
    (insertAt path value segments (.record [])).1 = .ok () := by
  induction segments with
  | nil => exact absurd rfl moves
  | cons segment rest inductionHypothesis =>
    by_cases last : rest = []
    · rw [last]
      rfl
    · rw [insertAt_of_missing last rfl]
      exact inductionHypothesis last

/-- Where the end of a path is not reached, nothing has been made on the way. -/
theorem snd_insertAt_of_error {fault : DocumentFault}
    (failed : (insertAt path value segments before).1 = .error fault) :
    (insertAt path value segments before).2 = before := by
  induction segments generalizing before with
  | nil => rfl
  | cons segment rest inductionHypothesis =>
    cases before with
    | record members =>
      by_cases last : rest = []
      · subst last
        exact absurd failed nofun
      · cases inside : member? segment members with
        | some present =>
          rw [insertAt_of_member? last inside] at failed ⊢
          rw [inductionHypothesis failed, replaceMember_of_member? inside]
        | none =>
          -- Below an object that has just been made no end is missed.
          rw [insertAt_of_missing last inside] at failed
          exact absurd ((insertAt_empty last).symm.trans failed) nofun
    | _ => cases rest <;> rfl

/-- Where all that stands above the end of a path is objects, the end is reached. -/
theorem insertAt_of_objects (moves : segments ≠ [])
    (objects : ∀ above found, above <+: segments → above ≠ segments →
      before.keys? above = some found → ∃ members, found = .record members) :
    (insertAt path value segments before).1 = .ok () := by
  induction segments generalizing before with
  | nil => exact absurd rfl moves
  | cons segment rest inductionHypothesis =>
    obtain ⟨members, rfl⟩ := objects [] before List.nil_prefix (Ne.symm moves) rfl
    by_cases last : rest = []
    · rw [last]
      rfl
    · cases inside : member? segment members with
      | some present =>
        rw [insertAt_of_member? last inside]
        refine inductionHypothesis last fun above found shorter proper here => ?_
        refine objects (segment :: above) found (List.cons_prefix_cons.mpr ⟨rfl, shorter⟩)
          (fun same => proper (List.tail_eq_of_cons_eq same)) ?_
        rw [keys?, follow?_cons, leadsToMembers_key?, inside]
        exact here
      | none =>
        rw [insertAt_of_missing last inside]
        exact insertAt_empty last

/-- Setting a value in an object at the end of a path that has segments. It succeeds if all that
stands above the end is objects, and only then. If it does, the keys lead to the value, and other
keys, none of which are the front of the others, lead to what they led to before; if not, the
object is the one that it was, without new ones on the way. -/
theorem insertAt_sets_one_place (path : String) (value : Json) (members : List (String × Json))
    (named : pathSegments path ≠ []) :
    ((insertAt path value (pathSegments path) (.record members)).1 = .ok () ↔
      ∀ above found, above <+: pathSegments path → above ≠ pathSegments path →
        keys? above (.record members) = some found → ∃ inner, found = .record inner) ∧
    (∀ after, insertAt path value (pathSegments path) (.record members) = (.ok (), after) →
      keys? (pathSegments path) after = some value ∧
        ∀ other, ¬other <+: pathSegments path → ¬pathSegments path <+: other →
          keys? other after = keys? other (.record members)) ∧
    ∀ fault after, insertAt path value (pathSegments path) (.record members) =
      (.error fault, after) → after = .record members := by
  refine ⟨⟨fun reached above found shorter proper => ?_, insertAt_of_objects named⟩,
    fun after done => ⟨?_, fun other notBefore notAfter => ?_⟩, fun fault after failed => ?_⟩
  · exact (parents_of_insertAt leadsToMembers_key? (Prod.ext reached rfl) shorter proper).2 found
  · exact follow?_insertAt leadsToMembers_key? done
  · exact follow?_insertAt_of_apart leadsToMembers_key? done notBefore notAfter
  · exact (congrArg Prod.snd failed).symm.trans (snd_insertAt_of_error (congrArg Prod.fst failed))

/-- An address is made for a key, beside the name that was there; where the owner is a text, none
is made. -/
theorem insertAt_sets_key_of_address :
    pathSegments "Owner.Address.Id" ≠ [] ∧
    (∃ after, insertAt "Owner.Address.Id" (.text "7") (pathSegments "Owner.Address.Id")
        (.record [("Owner", .record [("Name", .text "Ada")])]) = (.ok (), after) ∧
      keys? ["Owner", "Address", "Id"] after = some (.text "7") ∧
      keys? ["Owner", "Name"] after = some (.text "Ada")) ∧
    ∃ after, insertAt "Owner.Address.Id" (.text "7") (pathSegments "Owner.Address.Id")
        (.record [("Owner", .text "Ada")]) = (.error (.notParent "Address"), after) ∧
      after = .record [("Owner", .text "Ada")] := by
  have named : pathSegments "Owner.Address.Id" ≠ [] := by decide
  refine ⟨named, ?_, ?_⟩
  · have ⟨_, reached, _⟩ := insertAt_sets_one_place "Owner.Address.Id" (.text "7")
      [("Owner", .record [("Name", .text "Ada")])] named
    obtain ⟨set, kept⟩ := reached _ rfl
    exact ⟨_, rfl, set, kept ["Owner", "Name"] (by decide) (by decide)⟩
  · have ⟨_, _, missed⟩ := insertAt_sets_one_place "Owner.Address.Id" (.text "7")
      [("Owner", .text "Ada")] named
    exact ⟨_, rfl, missed _ _ rfl⟩

end Json

end Sieve
