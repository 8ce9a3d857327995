/-
This file compares a store with a log. Of a type of documents the log keeps, in their
order, the writes and removals that succeeded, as they can be read off the calls and
their answers alone. Whatever a store is asked about the type is then answered from the
log: one call keeps the store and the log in step, so any sequence of calls does.
-/

import Sieve.Proofs.Store.Run

namespace Sieve

open Outcome

/-! ### Logs -/

/-- What has happened to the documents of a type. -/
inductive Entry where
  /-- A document was written. -/
  | written (document : Document)
  /-- The document under a key was removed. -/
  | removed (key : String)

namespace Entry

/-- The key that an entry is about. -/
def key : Entry → String
  | written document => document.key
  | removed key => key

/-- The document that was written, if one was. -/
def document? : Entry → Option Document
  | written document => some document
  | removed _ => none

end Entry

/-- The entries about a type, the last one at the end. -/
abbrev Log := List Entry

namespace Log

/-- The documents that were written, removed and replaced ones too. -/
def writes (log : Log) : List Document :=
  log.filterMap Entry.document?

/-- The document of the last entry about a key, if that entry is a write. -/
def latest? (log : Log) (key : String) : Option Document :=
  (log.reverse.find? fun entry => entry.key == key).bind Entry.document?

/-- The documents of the writes with no later entry about their key, in the order of the log. -/
def live : Log → List Document
  | [] => []
  | .written document :: rest =>
    if rest.any fun entry => entry.key == document.key then live rest else document :: live rest
  | .removed _ :: rest => live rest

theorem latest?_append_singleton (log : Log) (entry : Entry) (key : String) :
    latest? (log ++ [entry]) key =
      if entry.key = key then entry.document? else log.latest? key := by
  rw [latest?, List.reverse_append, List.reverse_singleton, List.singleton_append,
    List.find?_cons]
  by_cases same : entry.key = key
  · rw [if_pos same, beq_iff_eq.mpr same]
    rfl
  · rw [if_neg same, beq_eq_false_iff_ne.mpr same]
    rfl

/-- A new entry takes the document under its key away and puts its own, if it has one, to the
end. -/
theorem live_append_singleton (log : Log) (entry : Entry) :
    live (log ++ [entry]) =
      (log.live.filter fun document => document.key != entry.key) ++ entry.document?.toList := by
  induction log with
  | nil => cases entry <;> rfl
  | cons first rest inductionHypothesis =>
    cases first with
    | removed key => exact inductionHypothesis
    | written document =>
      rw [List.cons_append, live, live, List.any_append, inductionHypothesis]
      by_cases replaced : (rest.any fun entry => entry.key == document.key) = true
      · rw [if_pos (by simp [replaced]), if_pos replaced]
      · rw [if_neg replaced]
        simp only [Bool.not_eq_true] at replaced
        by_cases same : entry.key = document.key
        · simp [replaced, same]
        · simp [replaced, same, Ne.symm same]

theorem live_sublist_writes (log : Log) : log.live.Sublist log.writes := by
  induction log with
  | nil => exact .slnil
  | cons first rest inductionHypothesis =>
    cases first with
    | removed key => exact inductionHypothesis
    | written document =>
      rw [live]
      split
      · exact inductionHypothesis.cons document
      · exact inductionHypothesis.cons_cons document

/-- Without the documents under one key, the document under another key is found as before. -/
theorem find?_filter_key (documents : List Document) (taken key : String) :
    ((documents.filter fun document => document.key != taken).find? fun document =>
        document.key == key) =
      if taken = key then none else documents.find? fun document => document.key == key := by
  rw [List.find?_filter]
  split
  · rename_i same
    exact List.find?_eq_none.mpr fun document _ => by simp [same]
  · rename_i other
    refine congrArg (List.find? · documents) (funext fun document => ?_)
    by_cases found : document.key = key
    · simp [found, Ne.symm other]
    · simp [found]

/-- The live document under a key is that of the last entry about the key. -/
theorem find?_live (log : Log) (key : String) :
    (log.live.find? fun document => document.key == key) = log.latest? key := by
  induction log using List.reverseRecOn with
  | nil => rfl
  | append_singleton log entry inductionHypothesis =>
    rw [live_append_singleton, latest?_append_singleton, List.find?_append, find?_filter_key,
      inductionHypothesis]
    by_cases same : entry.key = key
    · rw [if_pos same, if_pos same]
      cases entry with
      | written document => simp [Entry.document?, show document.key = key from same]
      | removed key => rfl
    · rw [if_neg same, if_neg same]
      cases entry with
      | written document => simp [Entry.document?, show ¬document.key = key from same]
      | removed key => exact Option.or_none

/-- The live documents are those of the last entries about their keys. -/
theorem mem_live_iff (log : Log) (document : Document) :
    document ∈ log.live ↔ log.latest? document.key = some document := by
  induction log using List.reverseRecOn with
  | nil => simp [live, latest?]
  | append_singleton log entry inductionHypothesis =>
    rw [live_append_singleton, latest?_append_singleton, List.mem_append, List.mem_filter,
      inductionHypothesis]
    by_cases same : entry.key = document.key
    · simp [same]
    · rw [if_neg same]
      have other : document ∉ entry.document?.toList := by
        cases entry with
        | written found =>
          rintro inside
          exact same (congrArg Document.key (List.mem_singleton.mp inside).symm)
        | removed key => exact List.not_mem_nil
      simp [other, Ne.symm same]

end Log

/-! ### Filters on stored documents -/

namespace Filter

/-- Whether a filter is true on a row. -/
def selects (filter : Filter) (row : Row) : Bool :=
  match filter.evaluate row with
  | .ok (some true) => true
  | _ => false

/-- The error with which a filter fails on a row, if it does. -/
def failure? (filter : Filter) (row : Row) : Option CastError :=
  match filter.evaluate row with
  | .ok _ => none
  | .error error => some error

end Filter

/-! ### Calls -/

namespace Store

/-- What a store may be asked to do or to say. -/
inductive Call where
  /-- To store a JSON value as a document, given a fresh key. -/
  | put (typeName : String) (body : Json) (fresh : Uuid)
  /-- To give the document under a key. -/
  | get (typeName key : String)
  /-- To remove the document under a key. -/
  | delete (typeName key : String)
  /-- To give all documents. -/
  | all (typeName : String)
  /-- To give the documents of which a filter is true. -/
  | queryFilter (typeName : String) (filter : Filter)
  /-- To give the documents of which what is asked holds. -/
  | query (typeName : String) (predicate? : Option Predicate)

/-- What a store answers. -/
inductive Answer where
  /-- The document that was stored or found. -/
  | document (result : Except StoreError Document)
  /-- Whether a document was removed. -/
  | removed (result : Except StoreError Unit)
  /-- The documents that were found. -/
  | documents (result : Except StoreError (List Document))

/-- The name of the type that a call is about. -/
def Call.typeName : Call → String
  | put typeName _ _ => typeName
  | get typeName _ => typeName
  | delete typeName _ => typeName
  | all typeName => typeName
  | queryFilter typeName _ => typeName
  | query typeName _ => typeName

/-- Whether an answer is an error. -/
def Answer.failed : Answer → Bool
  | document result => !result.isOk
  | removed result => !result.isOk
  | documents result => !result.isOk

/-- What a store answers to a call. -/
def answer (store : Store) : Call → Answer
  | .put typeName body fresh => .document (store.put typeName body fresh).1
  | .get typeName key => .document (store.get typeName key)
  | .delete typeName key => .removed (store.delete typeName key).1
  | .all typeName => .documents (.ok (store.all typeName))
  | .queryFilter typeName filter => .documents (store.queryFilter typeName filter)
  | .query typeName predicate? => .documents (store.query typeName predicate?)

/-- A store after a call; only what stores or removes a document changes it. -/
def next (store : Store) : Call → Store
  | .put typeName body fresh => store.after (.put typeName body fresh)
  | .delete typeName key => store.after (.delete typeName key)
  | _ => store

/-- A store after a sequence of calls. -/
def afterCalls (store : Store) (calls : List Call) : Store :=
  calls.foldl next store

/-- What a store answers to a sequence of calls. -/
def answers (store : Store) : List Call → List Answer
  | [] => []
  | call :: rest => store.answer call :: answers (store.next call) rest

/-- The entry about a type that a call and its answer make, if they make one. -/
def entryOf? (typeName : String) : Call → Answer → Option Entry
  | .put name _ _, .document (.ok document) =>
    if name = typeName then some (.written document) else none
  | .delete name key, .removed (.ok ()) => if name = typeName then some (.removed key) else none
  | _, _ => none

/-- The log about a type of a sequence of calls and what a store answers to them. -/
def log (typeName : String) (store : Store) (calls : List Call) : Log :=
  (calls.zip (store.answers calls)).filterMap fun (call, answer) => entryOf? typeName call answer

/-! ### What one call does to the documents of a type -/

variable {store other : Store} {typeName : String}

/-- Taking away the document of a type under a key leaves the documents of other types alone. -/
theorem filter_not_holds (documents : List Document) (name key typeName : String) :
    ((documents.filter fun document => !holds name key document).filter fun document =>
        document.typeName == typeName) =
      if name = typeName then
        (documents.filter fun document => document.typeName == typeName).filter fun document =>
          document.key != key
      else documents.filter fun document => document.typeName == typeName := by
  rw [List.filter_filter]
  split
  · rename_i same
    rw [List.filter_filter]
    refine List.filter_congr fun document _ => ?_
    rw [holds, same, bne]
    cases document.typeName == typeName <;> cases document.key == key <;> rfl
  · rename_i apart
    refine List.filter_congr fun document _ => ?_
    by_cases here : document.typeName = typeName
    · simp [holds, here, Ne.symm apart]
    · simp [beq_eq_false_iff_ne.mpr here]

theorem all_write (store : Store) (document : Document) (typeName : String) :
    (store.write document).all typeName =
      if document.typeName = typeName then
        ((store.all typeName).filter fun found => found.key != document.key) ++ [document]
      else store.all typeName := by
  rw [all, write, List.filter_append, filter_not_holds]
  split
  · rename_i same
    rw [List.filter_cons_of_pos (by simp [same])]
    rfl
  · rename_i apart
    rw [List.filter_cons_of_neg (by simpa using apart)]
    exact List.append_nil _

theorem writeCount_write (store : Store) (document : Document) (typeName : String) :
    (store.write document).writeCount typeName =
      if document.typeName = typeName then document.version else store.writeCount typeName := by
  rw [writeCount, write, List.find?_cons]
  split
  · rename_i same
    rw [if_pos (beq_iff_eq.mp same)]
    rfl
  · rename_i apart
    simp only [beq_eq_false_iff_ne, ne_eq] at apart
    rw [if_neg apart, List.find?_filter, writeCount]
    refine congrArg (fun found => (Option.map Prod.snd found).getD 0)
      (congrArg (List.find? · store.writes) (funext fun entry => ?_))
    by_cases here : entry.1 = typeName
    · simp [here, Ne.symm apart]
    · simp [here]

theorem writeCount_delete (store : Store) (name key typeName : String) :
    (store.delete name key).2.writeCount typeName = store.writeCount typeName := rfl

theorem all_delete (store : Store) (name key typeName : String) :
    (store.delete name key).2.all typeName =
      if name = typeName then (store.all typeName).filter fun found => found.key != key
      else store.all typeName :=
  filter_not_holds _ _ _ _

/-- The document under a key is looked for among those of the type. -/
theorem get_eq (store : Store) (typeName key : String) :
    store.get typeName key =
      match (store.all typeName).find? fun document => document.key == key with
      | some document => .ok document
      | none => .error (.notFound key) := by
  have same : store.documents.find? (holds typeName key) =
      (store.all typeName).find? fun document => document.key == key := by
    rw [all, List.find?_filter]
    refine congrArg (List.find? · store.documents) (funext fun document => ?_)
    rw [holds, Bool.decide_and, Bool.decide_eq_true, Bool.decide_eq_true]
  have search : store.get typeName key =
      match store.documents.find? (holds typeName key) with
      | some document => .ok document
      | none => .error (.notFound key) := rfl
  rw [search, same]

/-- A document that is prepared has the number of the write that it is for. -/
theorem version_of_prepare {body : Json} {fresh : Uuid} {document : Document}
    (prepared : store.prepare typeName body fresh = .ok document) :
    document.version = store.writeCount typeName + 1 := by
  obtain ⟨documentType, _, prepared⟩ := bind_eq_ok.mp prepared
  cases body with
  | record members =>
    obtain ⟨⟨key, keyed⟩, _, prepared⟩ := bind_eq_ok.mp prepared
    obtain ⟨_, _, prepared⟩ := bind_eq_ok.mp prepared
    obtain ⟨columns, _, prepared⟩ := bind_eq_ok.mp prepared
    rw [← Except.ok.inj prepared]
  | _ => exact absurd prepared (by simp)

/-! ### Stores in step with a log -/

/-- A store that has of a type just what a log about it says. -/
structure InStep (store : Store) (typeName : String) (log : Log) : Prop where
  /-- The documents are the live ones, in the order of the log. -/
  all : store.all typeName = log.live
  /-- The writes are counted. -/
  count : store.writeCount typeName = log.writes.length
  /-- The writes are numbered from one on. -/
  versions : log.writes.map Document.version = List.range' 1 log.writes.length

theorem inStep_empty (planner : Planner) (typeName : String) :
    (empty planner).InStep typeName [] where
  all := rfl
  count := rfl
  versions := rfl

theorem InStep.written {log : Log} (inStep : store.InStep typeName log) {document : Document}
    (same : document.typeName = typeName)
    (version : document.version = store.writeCount typeName + 1) :
    (store.write document).InStep typeName (log ++ [.written document]) := by
  have writes : Log.writes (log ++ [.written document]) = log.writes ++ [document] := by
    rw [Log.writes, List.filterMap_append]
    rfl
  refine ⟨?_, ?_, ?_⟩
  · rw [all_write, if_pos same, inStep.all, Log.live_append_singleton]
    rfl
  · rw [writeCount_write, if_pos same, writes, List.length_append, version, inStep.count]
    rfl
  · rw [writes, List.map_append, inStep.versions, List.length_append, List.map_singleton, version,
      inStep.count, List.length_singleton, ← List.range'_append_1, Nat.add_comm 1]
    rfl

theorem InStep.removed {log : Log} (inStep : store.InStep typeName log) (key : String) :
    (store.delete typeName key).2.InStep typeName (log ++ [.removed key]) := by
  have writes : Log.writes (log ++ [.removed key]) = log.writes := by
    rw [Log.writes, List.filterMap_append]
    exact List.append_nil _
  refine ⟨?_, ?_, ?_⟩
  · rw [all_delete, if_pos rfl, inStep.all, Log.live_append_singleton]
    exact (List.append_nil _).symm
  · rw [writeCount_delete, writes, inStep.count]
  · rw [writes, inStep.versions]

theorem InStep.of_eq {log : Log} (inStep : store.InStep typeName log)
    (all : other.all typeName = store.all typeName)
    (count : other.writeCount typeName = store.writeCount typeName) :
    other.InStep typeName log :=
  ⟨all.trans inStep.all, count.trans inStep.count, inStep.versions⟩

/-- One call keeps a store in step with the log about a type, whatever type the call is about. -/
theorem InStep.next {log : Log} (inStep : store.InStep typeName log) (call : Call) :
    (store.next call).InStep typeName
      (log ++ (entryOf? typeName call (store.answer call)).toList) := by
  cases call with
  | put name body fresh =>
    rw [Store.next, after, answer]
    rcases put_cases store name body fresh with ⟨document, prepared, put⟩ | ⟨error, _, put⟩
    · obtain ⟨_, _, named, _⟩ := prepare_sound prepared
      rw [put]
      show (store.write document).InStep typeName
        (log ++ (if name = typeName then some (.written document) else none).toList)
      by_cases same : name = typeName
      · rw [if_pos same]
        exact inStep.written (named.trans same) (same ▸ version_of_prepare prepared)
      · rw [if_neg same, Option.toList_none, List.append_nil]
        refine inStep.of_eq ?_ ?_
        · rw [all_write, named, if_neg same]
        · rw [writeCount_write, named, if_neg same]
    · rw [put]
      exact (List.append_nil log).symm ▸ inStep
  | delete name key =>
    rw [Store.next, after, answer]
    cases removed : (store.delete name key).1 with
    | error error =>
      rw [snd_delete_of_error removed]
      exact (List.append_nil log).symm ▸ inStep
    | ok =>
      show (store.delete name key).2.InStep typeName
        (log ++ (if name = typeName then some (.removed key) else none).toList)
      by_cases same : name = typeName
      · rw [if_pos same]
        exact same ▸ inStep.removed key
      · rw [if_neg same, Option.toList_none, List.append_nil]
        exact inStep.of_eq (by rw [all_delete, if_neg same]) (writeCount_delete _ _ _ _)
  | _ => exact (List.append_nil log).symm ▸ inStep

theorem log_cons (typeName : String) (store : Store) (call : Call) (rest : List Call) :
    log typeName store (call :: rest) =
      (entryOf? typeName call (store.answer call)).toList ++
        log typeName (store.next call) rest := by
  rw [log, answers, List.zip_cons_cons, List.filterMap_cons]
  dsimp only
  cases entryOf? typeName call (store.answer call) <;> rfl

theorem log_get (typeName : String) (store : Store) (name key : String) (rest : List Call) :
    log typeName store (.get name key :: rest) = log typeName store rest :=
  log_cons typeName store (.get name key) rest

/-- Any sequence of calls keeps a store in step with the log. -/
theorem InStep.afterCalls {before : Log} (inStep : store.InStep typeName before)
    (calls : List Call) :
    (store.afterCalls calls).InStep typeName (before ++ log typeName store calls) := by
  induction calls generalizing store before with
  | nil => exact (List.append_nil before).symm ▸ inStep
  | cons call rest inductionHypothesis =>
    rw [log_cons, ← List.append_assoc]
    exact inductionHypothesis (inStep.next call)

theorem planner_next (store : Store) (call : Call) : (store.next call).planner = store.planner := by
  cases call with
  | put | delete => exact planner_after store _
  | _ => rfl

theorem planner_afterCalls (store : Store) (calls : List Call) :
    (store.afterCalls calls).planner = store.planner := by
  induction calls generalizing store with
  | nil => rfl
  | cons call rest inductionHypothesis =>
    exact (inductionHypothesis (store.next call)).trans (planner_next store call)

/-! ### What a store answers from the log -/

/-- A filter finds the documents on which it is true, unless it fails on one; then the first of
these says why. -/
theorem matching_eq (filter : Filter) (documents : List Document) :
    matching filter documents =
      match documents.findSome? fun document => filter.failure? document.row with
      | some error => .error error
      | none => .ok (documents.filter fun document => filter.selects document.row) := by
  induction documents with
  | nil => rfl
  | cons document rest inductionHypothesis =>
    rw [matching, inductionHypothesis, List.findSome?_cons, List.filter_cons, Filter.failure?,
      Filter.selects]
    cases filter.evaluate document.row with
    | error error => rfl
    | ok truth =>
      rw [ok_bind]
      cases rest.findSome? fun document => filter.failure? document.row with
      | some error => rfl
      | none => rcases truth with _ | _ | _ <;> rfl

/-- What a store says about a type is what follows from a log. -/
structure AnswersFrom (store : Store) (typeName : String) (log : Log) : Prop where
  /-- Under a key there is the document of the last write, unless it has been removed since. -/
  get : ∀ key, store.get typeName key =
    match log.latest? key with
    | some document => .ok document
    | none => .error (.notFound key)
  /-- All documents are those that no later entry has replaced or removed, in the order in which
  they were written. -/
  all : store.all typeName = log.live
  /-- They are the documents that are found under their own keys. -/
  mem_all : ∀ document,
    document ∈ store.all typeName ↔ store.get typeName document.key = .ok document
  /-- Their versions increase, so none of them is there twice. -/
  increasing : (store.all typeName).Pairwise fun earlier later => earlier.version < later.version
  /-- In whatever order they come, they are put into this one by their versions. -/
  sorted : ∀ documents : List Document, documents.Perm (store.all typeName) →
    (documents.mergeSort fun left right => left.version ≤ right.version) = store.all typeName
  /-- The writes are numbered from one on. -/
  versions : log.writes.map Document.version = List.range' 1 log.writes.length
  /-- A filter finds the live documents on which it is true, unless it fails on one. -/
  queryFilter : ∀ filter documentType, store.planner.catalog.describe typeName = .ok documentType →
    store.queryFilter typeName filter =
      match log.live.findSome? fun document => filter.failure? document.row with
      | some error => .error (.cast error)
      | none => .ok (log.live.filter fun document => filter.selects document.row)

theorem increasing_live {log : Log}
    (versions : log.writes.map Document.version = List.range' 1 log.writes.length) :
    log.live.Pairwise fun earlier later => earlier.version < later.version := by
  have numbers : (log.live.map Document.version).Pairwise (· < ·) := by
    refine List.Pairwise.sublist (log.live_sublist_writes.map Document.version) ?_
    rw [versions]
    exact List.pairwise_lt_range'
  exact List.pairwise_map.mp numbers

/-- Documents whose versions increase are what sorting them by their versions gives. -/
theorem mergeSort_of_perm {documents sorted : List Document}
    (increasing : sorted.Pairwise fun earlier later => earlier.version < later.version)
    (same : documents.Perm sorted) :
    (documents.mergeSort fun left right => left.version ≤ right.version) = sorted := by
  have distinct : (sorted.map Document.version).Nodup :=
    (List.pairwise_map.mpr increasing).imp fun smaller => smaller.ne
  have arranged :
      (documents.mergeSort fun left right => left.version ≤ right.version).Perm sorted :=
    (documents.mergeSort_perm _).trans same
  refine List.Perm.eq_of_pairwise (fun left right inside member smaller larger => ?_)
    (List.pairwise_mergeSort (fun left middle right => ?_) (fun left right => ?_) documents)
    (increasing.imp fun smaller => decide_eq_true smaller.le) arranged
  · exact List.inj_on_of_nodup_map distinct (arranged.subset inside) member
      ((of_decide_eq_true smaller).antisymm (of_decide_eq_true larger))
  · simp only [decide_eq_true_eq]
    exact le_trans
  · simp only [Bool.or_eq_true, decide_eq_true_eq]
    exact le_total _ _

theorem InStep.answersFrom {log : Log} (inStep : store.InStep typeName log) :
    store.AnswersFrom typeName log := by
  have get (key : String) : store.get typeName key =
      match log.latest? key with
      | some document => .ok document
      | none => .error (.notFound key) := by
    rw [get_eq, inStep.all, log.find?_live]
  have increasing := increasing_live inStep.versions
  refine
    { get := get
      all := inStep.all
      mem_all := fun document => ?_
      increasing := inStep.all ▸ increasing
      sorted := fun documents same => mergeSort_of_perm (inStep.all ▸ increasing) same
      versions := inStep.versions
      queryFilter := fun filter documentType described => ?_ }
  · rw [inStep.all, log.mem_live_iff, get]
    cases log.latest? document.key <;> simp
  · rw [Store.queryFilter, described, matching_eq, inStep.all]
    show Except.mapError StoreError.cast _ = _
    cases log.live.findSome? fun document => filter.failure? document.row <;> rfl

/-- A document can be removed where there is one. -/
theorem fst_delete (store : Store) (typeName key : String) :
    (store.delete typeName key).1 = (store.get typeName key).map fun _ => () := by
  have same : store.documents.any (holds typeName key) =
      (store.documents.find? (holds typeName key)).isSome := by
    rw [Bool.eq_iff_iff, List.find?_isSome, List.any_eq_true]
  rw [delete, get, same]
  cases store.documents.find? (holds typeName key) <;> rfl

/-- Stores with one planner that are in step with one log about a type give one answer to whatever
is asked about the type. -/
theorem InStep.answer_eq {log : Log} (inStep : store.InStep typeName log)
    (otherInStep : other.InStep typeName log) (planner : other.planner = store.planner)
    {call : Call} (about : call.typeName = typeName) : other.answer call = store.answer call := by
  have all := otherInStep.all.trans inStep.all.symm
  have count := otherInStep.count.trans inStep.count.symm
  cases call with
  | put name body fresh =>
    obtain rfl : name = typeName := about
    rw [answer, answer, fst_put, fst_put, prepare, prepare, planner, count]
  | get name key =>
    obtain rfl : name = typeName := about
    rw [answer, answer, get_eq, get_eq, all]
  | delete name key =>
    obtain rfl : name = typeName := about
    rw [answer, answer, fst_delete, fst_delete, get_eq, get_eq, all]
  | all name =>
    obtain rfl : name = typeName := about
    rw [answer, answer, all]
  | queryFilter name filter =>
    obtain rfl : name = typeName := about
    rw [answer, answer, queryFilter, queryFilter, planner, all]
  | query name predicate? =>
    obtain rfl : name = typeName := about
    rw [answer, answer, query, query, planner]
    simp only [queryFilter, planner, all]

/-- What fails changes nothing. -/
theorem next_of_failed {call : Call} (failed : (store.answer call).failed = true) :
    store.next call = store := by
  cases call with
  | put name body fresh =>
    obtain ⟨error, stored⟩ := exists_of_not_isOk failed
    exact snd_put_of_error stored
  | delete name key =>
    obtain ⟨error, removed⟩ := exists_of_not_isOk failed
    exact snd_delete_of_error removed
  | _ => rfl

/-- A store that has been called any number of times answers about a type from the log of the
writes and removals of the type that succeeded. Where two sequences of calls leave the same log,
whatever is asked about the type next has the same answer; and after a call that fails everything
is answered as if it had not been made. -/
theorem answersFrom_log (planner : Planner) (calls : List Call) (typeName : String) :
    ((empty planner).afterCalls calls).AnswersFrom typeName (log typeName (empty planner) calls) ∧
      (∀ others, log typeName (empty planner) others = log typeName (empty planner) calls →
        ∀ call, call.typeName = typeName →
          ((empty planner).afterCalls others).answer call =
            ((empty planner).afterCalls calls).answer call) ∧
      ∀ call, (((empty planner).afterCalls calls).answer call).failed = true → ∀ later,
        (((empty planner).afterCalls calls).next call).answers later =
          ((empty planner).afterCalls calls).answers later := by
  have inStep (calls : List Call) :
      ((empty planner).afterCalls calls).InStep typeName (log typeName (empty planner) calls) :=
    (inStep_empty planner typeName).afterCalls calls
  refine ⟨(inStep calls).answersFrom, fun others same call about => ?_, fun call failed later => ?_⟩
  · refine (inStep calls).answer_eq (same ▸ inStep others) ?_ about
    rw [planner_afterCalls, planner_afterCalls]
  · rw [next_of_failed failed]

/-- To store a meeting. -/
def Call.meeting (start : String) : Call :=
  .put "Meeting" (.meeting start) ⟨0⟩

/-- A look at the meetings in between changes no answer, and neither does the removal of a meeting
that is not there. -/
theorem answersFrom_log_meetings :
    let store := ofMeetings .extracted rfl
    let calls := [Call.meeting "2026-03-01T14:00:00Z", Call.meeting "2026-03-01T15:00:00Z"]
    let others := [Call.meeting "2026-03-01T14:00:00Z", Call.get "Meeting" "1",
      Call.meeting "2026-03-01T15:00:00Z"]
    (store.afterCalls calls).AnswersFrom "Meeting" (log "Meeting" store calls) ∧
      (store.afterCalls others).answer (.all "Meeting") =
        (store.afterCalls calls).answer (.all "Meeting") ∧
      ((store.afterCalls calls).next (.delete "Meeting" "2")).answers [.all "Meeting"] =
        (store.afterCalls calls).answers [.all "Meeting"] := by
  obtain ⟨answersFrom, determined, unchanged⟩ := answersFrom_log (ofMeetings .extracted rfl).planner
    [Call.meeting "2026-03-01T14:00:00Z", Call.meeting "2026-03-01T15:00:00Z"] "Meeting"
  have same : log "Meeting" (ofMeetings .extracted rfl)
      [Call.meeting "2026-03-01T14:00:00Z", Call.get "Meeting" "1",
        Call.meeting "2026-03-01T15:00:00Z"] =
      log "Meeting" (ofMeetings .extracted rfl)
        [Call.meeting "2026-03-01T14:00:00Z", Call.meeting "2026-03-01T15:00:00Z"] := by
    rw [log_cons, log_get, ← log_cons]
  exact ⟨answersFrom, determined _ same (.all "Meeting") rfl,
    unchanged (.delete "Meeting" "2") (by decide +kernel) _⟩

end Store

end Sieve
