import FileQuery.Proofs.Filter.ResultSet
import FileQuery.Proofs.FirstFailure

/-!
# Result sets and the last records of their paths

Filtering succeeds if the conditions can be evaluated on every record, and then the result set has
for each path the last record with that path that satisfies them. The value at every path
determines a map, so that there is only one such result set. Otherwise filtering fails as the first
record does on which the conditions cannot be evaluated.
-/

namespace FileQuery

namespace PathMap

variable {α : Type}

theorem get?_eq_some_iff {map : PathMap α} {path : String} {value : α} :
    map.get? path = some value ↔ (path, value) ∈ map.rows := by
  rw [get?, List.lookup_eq_some_iff]
  constructor
  · rintro ⟨before, rest, split, _⟩
    rw [split]
    simp
  · intro member
    rcases List.append_of_mem member with ⟨before, rest, split⟩
    refine ⟨before, rest, split, ?_⟩
    intro row earlier
    have ascending := map.ascending
    rw [split, List.pairwise_append] at ascending
    have less := ascending.2.2 row earlier (path, value) List.mem_cons_self
    simpa using (ne_of_lt less).symm

theorem mem_paths_iff {map : PathMap α} {path : String} :
    path ∈ map.paths ↔ ∃ value, map.get? path = some value := by
  simp [paths, get?_eq_some_iff]

/-- A map is determined by the values at its paths. -/
theorem ext_get? {left right : PathMap α} (same : ∀ path, left.get? path = right.get? path) :
    left = right := by
  have rows : left.rows.Perm right.rows := by
    have nodup : ∀ map : PathMap α, map.rows.Nodup := fun map => map.nodup_paths.of_map _
    rw [List.perm_ext_iff_of_nodup (nodup left) (nodup right)]
    rintro ⟨path, value⟩
    rw [← get?_eq_some_iff, ← get?_eq_some_iff, same]
  rcases left with ⟨leftRows, leftAscending⟩
  rcases right with ⟨rightRows, rightAscending⟩
  have equal : leftRows = rightRows := by
    refine rows.eq_of_pairwise ?_ leftAscending rightAscending
    intro row row' _ _ less less'
    exact absurd less' (lt_asymm less)
  subst equal
  rfl

end PathMap

namespace ResultSet

variable {zone : Calendar.Zone} {conditions : List Condition} {records : List FileRecord}

/-- The last of some records that has a path and satisfies the conditions. -/
def lastPassing (zone : Calendar.Zone) (conditions : List Condition) (records : List FileRecord)
    (path : String) : Option FileRecord :=
  (records.filter fun record =>
    record.path = path ∧ record.passes zone conditions = .ok true).getLast?

/-- The paths of the result set are those of the records that satisfy the conditions, and each of
them has the last such record. -/
structure HoldsLast (zone : Calendar.Zone) (conditions : List Condition)
    (records : List FileRecord) (results : ResultSet) : Prop where
  mem_paths_iff : ∀ path, path ∈ results.paths ↔
    ∃ record ∈ records, record.path = path ∧ record.passes zone conditions = .ok true
  get?_eq : ∀ path, results.get? path = lastPassing zone conditions records path

theorem lastPassing_cons_of_passes {record : FileRecord} {path : String}
    (at_path : record.path = path) (passes : record.passes zone conditions = .ok true) :
    lastPassing zone conditions (record :: records) path =
      some ((lastPassing zone conditions records path).getD record) := by
  simp [lastPassing, at_path, passes, List.getLast?_cons]

theorem lastPassing_cons_of_not {record : FileRecord} {path : String}
    (fails : ¬(record.path = path ∧ record.passes zone conditions = .ok true)) :
    lastPassing zone conditions (record :: records) path =
      lastPassing zone conditions records path := by
  simp [lastPassing, fails]

theorem mem_of_lastPassing_eq_some {record : FileRecord} {path : String}
    (last : lastPassing zone conditions records path = some record) :
    record ∈ records ∧ record.path = path ∧ record.passes zone conditions = .ok true := by
  simpa using List.mem_filter.1 (List.mem_of_getLast? last)

theorem exists_lastPassing_iff {path : String} :
    (∃ record, lastPassing zone conditions records path = some record) ↔
      ∃ record ∈ records, record.path = path ∧ record.passes zone conditions = .ok true := by
  simp [lastPassing, ← Option.isSome_iff_exists]

theorem get?_of_addPassing_eq_ok {results final : ResultSet} {path : String}
    (added : addPassing zone conditions results records = .ok final) :
    final.get? path = (lastPassing zone conditions records path).or (results.get? path) := by
  induction records generalizing results with
  | nil =>
      cases added
      rfl
  | cons record records ih =>
      rcases Outcome.bind_eq_ok_iff.1 added with ⟨passes, decided, rest⟩
      rw [ih rest]
      by_cases here : record.path = path ∧ record.passes zone conditions = .ok true
      · rcases here with ⟨rfl, succeeds⟩
        rw [succeeds] at decided
        cases decided
        rw [lastPassing_cons_of_passes rfl succeeds, if_pos rfl, PathMap.get?_insert, if_pos rfl]
        cases lastPassing zone conditions records record.path <;> rfl
      · rw [lastPassing_cons_of_not here]
        cases passes with
        | false => rfl
        | true =>
            have elsewhere : path ≠ record.path := fun same => here ⟨same.symm, decided⟩
            simp [PathMap.get?_insert, elsewhere]

theorem addPassing_eq_error_iff {results : ResultSet} {error : EvalError} :
    addPassing zone conditions results records = .error error ↔
      inspectInOrder (·.passes zone conditions) records = .error error := by
  induction records generalizing results with
  | nil => simp [addPassing, inspectInOrder]
  | cons record records ih =>
      simp only [addPassing, inspectInOrder, Outcome.bind_eq_error_iff, ih, reduceCtorEq,
        and_false, exists_false, or_false]

theorem ofRecords_eq_error_iff {error : EvalError} :
    ofRecords zone conditions records = .error error ↔
      ∃ record, FirstFailure (fun record outcome => record.passes zone conditions = outcome)
        records record error :=
  addPassing_eq_error_iff.trans inspectInOrder_eq_error_iff

theorem exists_ofRecords_eq_ok_iff :
    (∃ results, ofRecords zone conditions records = .ok results) ↔
      ∀ record ∈ records, ∃ passes, record.passes zone conditions = .ok passes := by
  constructor
  · rintro ⟨results, filtered⟩ record member
    cases outcome : record.passes zone conditions with
    | ok passes => exact ⟨passes, rfl⟩
    | error error =>
        have failing : ∃ failed error, FirstFailure
            (fun record outcome => record.passes zone conditions = outcome) records failed error :=
          exists_firstFailure_iff.2 ⟨record, member, error, outcome⟩
        rcases failing with ⟨failed, error', first⟩
        rw [ofRecords_eq_error_iff.2 ⟨failed, first⟩] at filtered
        cases filtered
  · intro succeed
    cases outcome : ofRecords zone conditions records with
    | ok results => exact ⟨results, rfl⟩
    | error error =>
        rcases ofRecords_eq_error_iff.1 outcome with ⟨failed, first⟩
        rcases succeed failed first.mem.1 with ⟨passes, succeeds⟩
        rw [first.mem.2] at succeeds
        cases succeeds

theorem holdsLast_of_ofRecords_eq_ok {results : ResultSet}
    (filtered : ofRecords zone conditions records = .ok results) :
    results.HoldsLast zone conditions records := by
  have get : ∀ path, results.get? path = lastPassing zone conditions records path := by
    intro path
    simpa using get?_of_addPassing_eq_ok filtered
  constructor
  · intro path
    rw [PathMap.mem_paths_iff, get, exists_lastPassing_iff]
  · exact get

theorem HoldsLast.unique {left right : ResultSet}
    (holdsLeft : left.HoldsLast zone conditions records)
    (holdsRight : right.HoldsLast zone conditions records) : left = right :=
  PathMap.ext_get? fun path => (holdsLeft.get?_eq path).trans (holdsRight.get?_eq path).symm

/-- Filtering gives the last records of all paths if no condition fails on any record. -/
theorem ofRecords_eq_ok_iff {results : ResultSet} :
    ofRecords zone conditions records = .ok results ↔
      (∀ record ∈ records, ∃ passes, record.passes zone conditions = .ok passes) ∧
        results.HoldsLast zone conditions records := by
  constructor
  · intro filtered
    exact ⟨exists_ofRecords_eq_ok_iff.1 ⟨results, filtered⟩, holdsLast_of_ofRecords_eq_ok filtered⟩
  · rintro ⟨succeed, holds⟩
    rcases exists_ofRecords_eq_ok_iff.2 succeed with ⟨results', filtered⟩
    rw [(holdsLast_of_ofRecords_eq_ok filtered).unique holds] at filtered
    exact filtered

end ResultSet

end FileQuery
