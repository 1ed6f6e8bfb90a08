import FileQuery.Filter.ResultSet
import FileQuery.Proofs.Outcome

/-!
# Paths of result sets

The paths of a result set are those of the records that satisfy the conditions, each once. A
result set is therefore as large as the list of records only if no two of them share a path.
-/

namespace FileQuery

namespace PathMap

variable {α : Type}

theorem mem_map_fst_insertRow {path other : String} {value : α} {rows : List (String × α)} :
    other ∈ (insertRow path value rows).map Prod.fst ↔
      other = path ∨ other ∈ rows.map Prod.fst := by
  induction rows with
  | nil => simp [insertRow]
  | cons head rest ih =>
      rcases head with ⟨first, previous⟩
      simp only [insertRow]
      split
      · simp
      · split
        · rename_i same
          simp [same]
        · simp only [List.map_cons, List.mem_cons, ih]
          exact or_left_comm

@[simp]
theorem mem_paths_insert {map : PathMap α} {path other : String} {value : α} :
    other ∈ (map.insert path value).paths ↔ other = path ∨ other ∈ map.paths :=
  mem_map_fst_insertRow

@[simp]
theorem paths_empty : (empty : PathMap α).paths = [] := rfl

@[simp]
theorem length_paths (map : PathMap α) : map.paths.length = map.size :=
  List.length_map Prod.fst

theorem nodup_paths (map : PathMap α) : map.paths.Nodup := by
  rw [List.Nodup, paths, List.pairwise_map]
  apply map.ascending.imp
  intro left right less same
  rw [same] at less
  exact String.lt_irrefl _ less

end PathMap

namespace ResultSet

variable {zone : Calendar.Zone} {conditions : List Condition} {records : List FileRecord}

theorem mem_paths_of_addPassing_eq_ok {results final : ResultSet} {path : String}
    (added : addPassing zone conditions results records = .ok final) :
    path ∈ final.paths ↔ path ∈ results.paths ∨
      ∃ record ∈ records, record.passes zone conditions = .ok true ∧ record.path = path := by
  induction records generalizing results with
  | nil =>
      cases added
      simp
  | cons record records ih =>
      rcases Outcome.bind_eq_ok_iff.1 added with ⟨passes, decided, rest⟩
      rw [ih rest]
      cases passes with
      | false => simp [decided]
      | true =>
          simp only [if_true, PathMap.mem_paths_insert, List.mem_cons, exists_eq_or_imp, decided,
            true_and, eq_comm (a := path)]
          exact or_assoc.trans or_left_comm

/-- Without a condition nothing can fail. -/
theorem exists_ofRecords_nil (zone : Calendar.Zone) (records : List FileRecord) :
    ∃ results, ofRecords zone [] records = .ok results := by
  have added : ∀ start : ResultSet, ∃ results, addPassing zone [] start records = .ok results := by
    induction records with
    | nil =>
        intro start
        exact ⟨start, rfl⟩
    | cons record records ih =>
        intro start
        exact ih (start.insert record.path record)
  exact added PathMap.empty

/-- Without a condition, the paths of a result set are those of the records. -/
theorem paths_perm_dedup {results : ResultSet}
    (filtered : ofRecords zone [] records = .ok results) :
    results.paths.Perm (records.map FileRecord.path).dedup := by
  rw [List.perm_ext_iff_of_nodup results.nodup_paths (List.nodup_dedup _)]
  intro path
  simp [mem_paths_of_addPassing_eq_ok filtered, FileRecord.passes]

theorem size_eq_length_iff {results : ResultSet}
    (filtered : ofRecords zone [] records = .ok results) :
    results.size = records.length ↔ (records.map FileRecord.path).Nodup := by
  have size : results.size = (records.map FileRecord.path).dedup.length := by
    rw [← results.length_paths]
    exact (paths_perm_dedup filtered).length_eq
  rw [size, ← List.dedup_eq_self]
  constructor
  · intro whole
    rw [← List.length_map FileRecord.path] at whole
    exact (List.dedup_sublist _).eq_of_length whole
  · intro distinct
    rw [distinct, List.length_map]

end ResultSet

end FileQuery
