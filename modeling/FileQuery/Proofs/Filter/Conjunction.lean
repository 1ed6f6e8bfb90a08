import FileQuery.Proofs.Filter.Failure

/-!
# Several conditions

The conditions of a filter are a conjunction that is evaluated from left to right and no further
than to the first condition that is false. A condition that cannot be evaluated on a record does
harm only if it is reached, so that it may stand behind a false one; and the error of a filter is
that of the first condition of the first record where this happens.

What a filter keeps is stated here without the order in which it works: a path is there if some
record with it satisfies all conditions, and it has the last such record. The first half does not
depend on the order of the records at all.
-/

namespace FileQuery

open Calendar (Zone)

variable {zone : Zone} {conditions : List Condition} {records : List FileRecord}

namespace FileRecord

variable {record : FileRecord}

def SatisfiesAll (zone : Zone) (record : FileRecord) (conditions : List Condition) : Prop :=
  ∀ condition ∈ conditions, record.satisfies zone condition = .ok true

/-- Every condition that cannot be evaluated on the record stands behind one that is false. -/
def Settles (zone : Zone) (record : FileRecord) (conditions : List Condition) : Prop :=
  ∀ before condition rest, conditions = before ++ condition :: rest →
    ∀ error, record.satisfies zone condition = .error error →
      ∃ earlier ∈ before, record.satisfies zone earlier = .ok false

/-- The record satisfies all conditions before a condition that cannot be evaluated on it. -/
def StopsAt (zone : Zone) (record : FileRecord) (conditions : List Condition)
    (condition : Condition) (error : EvalError) : Prop :=
  ∃ before rest, conditions = before ++ condition :: rest ∧
    record.SatisfiesAll zone before ∧ record.satisfies zone condition = .error error

theorem satisfiesAll_cons_iff {condition : Condition} :
    record.SatisfiesAll zone (condition :: conditions) ↔
      record.satisfies zone condition = .ok true ∧ record.SatisfiesAll zone conditions :=
  List.forall_mem_cons

theorem stopsAt_cons_iff {first condition : Condition} {error : EvalError} :
    record.StopsAt zone (first :: conditions) condition error ↔
      (condition = first ∧ record.satisfies zone first = .error error) ∨
        record.satisfies zone first = .ok true ∧
          record.StopsAt zone conditions condition error := by
  constructor
  · rintro ⟨before, rest, split, satisfied, fails⟩
    cases before with
    | nil =>
        cases split
        exact .inl ⟨rfl, fails⟩
    | cons head before =>
        cases split
        rw [satisfiesAll_cons_iff] at satisfied
        exact .inr ⟨satisfied.1, before, rest, rfl, satisfied.2, fails⟩
  · rintro (⟨rfl, fails⟩ | ⟨holds, before, rest, rfl, satisfied, fails⟩)
    · exact ⟨[], conditions, rfl, List.forall_mem_nil _, fails⟩
    · exact ⟨first :: before, rest, rfl, satisfiesAll_cons_iff.2 ⟨holds, satisfied⟩, fails⟩

theorem passes_cons_of_error {condition : Condition} {error : EvalError}
    (fails : record.satisfies zone condition = .error error) :
    record.passes zone (condition :: conditions) = .error error := by
  rw [passes, fails, Outcome.error_bind]

theorem passes_cons_of_false {condition : Condition}
    (isFalse : record.satisfies zone condition = .ok false) :
    record.passes zone (condition :: conditions) = .ok false := by
  simp [passes, isFalse]

theorem passes_cons_of_true {condition : Condition}
    (holds : record.satisfies zone condition = .ok true) :
    record.passes zone (condition :: conditions) = record.passes zone conditions := by
  simp [passes, holds]

theorem passes_eq_true_iff :
    record.passes zone conditions = .ok true ↔ record.SatisfiesAll zone conditions := by
  induction conditions with
  | nil => simp [passes, SatisfiesAll]
  | cons condition conditions ih =>
      rw [satisfiesAll_cons_iff]
      cases outcome : record.satisfies zone condition with
      | error error => simp [passes_cons_of_error outcome]
      | ok holds =>
          cases holds with
          | false => simp [passes_cons_of_false outcome]
          | true => simp [passes_cons_of_true outcome, ih]

theorem passes_eq_error_iff {error : EvalError} :
    record.passes zone conditions = .error error ↔
      ∃ condition, record.StopsAt zone conditions condition error := by
  induction conditions with
  | nil => simp [passes, StopsAt]
  | cons condition conditions ih =>
      simp only [stopsAt_cons_iff, exists_or, exists_eq_left, exists_and_left, ← ih]
      cases outcome : record.satisfies zone condition with
      | error error => simp [passes_cons_of_error outcome]
      | ok holds =>
          cases holds with
          | false => simp [passes_cons_of_false outcome]
          | true => simp [passes_cons_of_true outcome]

/-- A record settles the conditions exactly if there is none at which it stops: of the conditions
that cannot be evaluated and stand behind no false one, it stops at the first. -/
theorem settles_iff :
    record.Settles zone conditions ↔
      ¬∃ condition error, record.StopsAt zone conditions condition error := by
  constructor
  · rintro settles ⟨condition, error, before, rest, split, satisfied, fails⟩
    rcases settles before condition rest split error fails with ⟨earlier, member, isFalse⟩
    rw [satisfied earlier member] at isFalse
    cases isFalse
  · intro never before condition rest split error fails
    subst split
    induction before with
    | nil =>
        exact absurd ⟨condition, error, stopsAt_cons_iff.2 (.inl ⟨rfl, fails⟩)⟩ never
    | cons first before ih =>
        cases outcome : record.satisfies zone first with
        | error failure =>
            exact absurd ⟨first, failure, stopsAt_cons_iff.2 (.inl ⟨rfl, outcome⟩)⟩ never
        | ok holds =>
            cases holds with
            | false => exact ⟨first, List.mem_cons_self, outcome⟩
            | true =>
                have later : ¬∃ condition' error',
                    record.StopsAt zone (before ++ condition :: rest) condition' error' := by
                  rintro ⟨condition', error', stops⟩
                  exact never ⟨condition', error', stopsAt_cons_iff.2 (.inr ⟨outcome, stops⟩)⟩
                rcases ih later with ⟨earlier, member, isFalse⟩
                exact ⟨earlier, List.mem_cons_of_mem _ member, isFalse⟩

theorem exists_passes_eq_ok_iff :
    (∃ answer, record.passes zone conditions = .ok answer) ↔ record.Settles zone conditions := by
  rw [settles_iff, Outcome.exists_eq_ok_iff]
  simp only [passes_eq_error_iff]
  exact not_congr exists_comm

end FileRecord

theorem PathMap.paths_eq_of_mem_iff {α : Type} {left right : PathMap α}
    (same : ∀ path, path ∈ left.paths ↔ path ∈ right.paths) : left.paths = right.paths := by
  have ascending : ∀ map : PathMap α, map.paths.Pairwise (· < ·) := by
    intro map
    rw [paths, List.pairwise_map]
    exact map.ascending
  have perm : left.paths.Perm right.paths :=
    (List.perm_ext_iff_of_nodup left.nodup_paths right.nodup_paths).2 same
  refine perm.eq_of_pairwise ?_ (ascending left) (ascending right)
  intro path path' _ _ less less'
  exact absurd less' (lt_asymm less)

namespace ResultSet

/-- The last of some records that has a path and satisfies all conditions. -/
def IsLastAt (zone : Zone) (conditions : List Condition) (records : List FileRecord)
    (path : String) (record : FileRecord) : Prop :=
  ∃ before rest, records = before ++ record :: rest ∧
    record.path = path ∧ record.SatisfiesAll zone conditions ∧
    ∀ later ∈ rest, later.path = path → ¬later.SatisfiesAll zone conditions

/-- The result set has the path of every record that satisfies all conditions and no other, and at
each path the last such record. -/
structure Keeps (zone : Zone) (conditions : List Condition) (records : List FileRecord)
    (results : ResultSet) : Prop where
  mem_paths_iff : ∀ path, path ∈ results.paths ↔
    ∃ record ∈ records, record.path = path ∧ record.SatisfiesAll zone conditions
  get?_eq_some_iff : ∀ path record, results.get? path = some record ↔
    IsLastAt zone conditions records path record
  path_eq : ∀ path record, (path, record) ∈ results.rows → record.path = path

theorem lastPassing_eq_some_iff {path : String} {record : FileRecord} :
    lastPassing zone conditions records path = some record ↔
      IsLastAt zone conditions records path record := by
  simp only [lastPassing, FileRecord.passes_eq_true_iff, List.getLast?_eq_some_iff,
    List.filter_eq_append_iff, List.filter_eq_cons_iff, List.filter_eq_nil_iff,
    decide_eq_true_eq, IsLastAt]
  constructor
  · rintro ⟨_, start, _, rfl, -, before, rest, rfl, -, ⟨at_path, satisfied⟩, last⟩
    refine ⟨start ++ before, rest, (List.append_assoc _ _ _).symm, at_path, satisfied, ?_⟩
    intro later member same
    exact fun satisfied' => last later member ⟨same, satisfied'⟩
  · rintro ⟨before, rest, rfl, at_path, satisfied, last⟩
    refine ⟨_, before, _, rfl, rfl, [], rest, rfl, List.forall_mem_nil _,
      ⟨at_path, satisfied⟩, ?_⟩
    rintro later member ⟨same, satisfied'⟩
    exact last later member same satisfied'

theorem HoldsLast.keeps {results : ResultSet}
    (holds : results.HoldsLast zone conditions records) :
    results.Keeps zone conditions records where
  mem_paths_iff path := by
    simp only [holds.mem_paths_iff, FileRecord.passes_eq_true_iff]
  get?_eq_some_iff path record := by
    rw [holds.get?_eq, lastPassing_eq_some_iff]
  path_eq path record member := by
    rw [← PathMap.get?_eq_some_iff, holds.get?_eq] at member
    exact (mem_of_lastPassing_eq_some member).2.1

theorem exists_ofRecords_eq_ok_iff_settles :
    (∃ results, ofRecords zone conditions records = .ok results) ↔
      ∀ record ∈ records, record.Settles zone conditions := by
  simp only [exists_ofRecords_eq_ok_iff, FileRecord.exists_passes_eq_ok_iff]

theorem ofRecords_eq_error_iff_stopsAt {error : EvalError} :
    ofRecords zone conditions records = .error error ↔
      ∃ before record rest condition, records = before ++ record :: rest ∧
        (∀ earlier ∈ before, earlier.Settles zone conditions) ∧
        record.StopsAt zone conditions condition error := by
  simp only [ofRecords_eq_error_iff, FirstFailure, FileRecord.exists_passes_eq_ok_iff,
    FileRecord.passes_eq_error_iff]
  constructor
  · rintro ⟨record, before, rest, split, settle, condition, stops⟩
    exact ⟨before, record, rest, condition, split, settle, stops⟩
  · rintro ⟨before, record, rest, condition, split, settle, stops⟩
    exact ⟨record, before, rest, split, settle, condition, stops⟩

/-- Filtering succeeds if every record settles the conditions, and fails as the first record that
does not, at the first condition that it reaches and cannot evaluate. A result set keeps the last
record of every path that satisfies all conditions. Neither whether filtering succeeds nor which
paths it keeps depends on the order of the records. -/
theorem ofRecords_scans_in_order (zone : Zone) (conditions : List Condition)
    (records : List FileRecord) :
    ((∃ results, ofRecords zone conditions records = .ok results) ↔
      ∀ record ∈ records, record.Settles zone conditions) ∧
    (∀ error, ofRecords zone conditions records = .error error ↔
      ∃ before record rest condition, records = before ++ record :: rest ∧
        (∀ earlier ∈ before, earlier.Settles zone conditions) ∧
        record.StopsAt zone conditions condition error) ∧
    (∀ results, ofRecords zone conditions records = .ok results →
      results.Keeps zone conditions records) ∧
    ∀ others, records.Perm others →
      ((∃ results, ofRecords zone conditions records = .ok results) ↔
        ∃ results, ofRecords zone conditions others = .ok results) ∧
      ∀ results results', ofRecords zone conditions records = .ok results →
        ofRecords zone conditions others = .ok results' → results.paths = results'.paths := by
  have keeps : ∀ records results, ofRecords zone conditions records = .ok results →
      results.Keeps zone conditions records :=
    fun _ _ filtered => (holdsLast_of_ofRecords_eq_ok filtered).keeps
  refine ⟨exists_ofRecords_eq_ok_iff_settles, fun _ => ofRecords_eq_error_iff_stopsAt,
    keeps records, ?_⟩
  intro others perm
  constructor
  · simp only [exists_ofRecords_eq_ok_iff_settles, perm.mem_iff]
  · intro results results' filtered filtered'
    apply PathMap.paths_eq_of_mem_iff
    intro path
    rw [(keeps _ _ filtered).mem_paths_iff, (keeps _ _ filtered').mem_paths_iff]
    simp only [perm.mem_iff]

/-- Of two files with one path the smaller one passes neither condition, and of a name that is no
integer the second condition is never asked: whatever the order, the larger file is kept. -/
theorem ofRecords_scans_in_order_hidden_error :
    let conditions : List Condition := [⟨.fileSize, .gt, "5"⟩, ⟨.name, .gt, "1"⟩]
    let large : FileRecord := { FileRecord.named "7" with size := 9 }
    let records := [large, .named "7", .named "x"]
    let others := [.named "x", .named "7", large]
    records.Perm others ∧
      (FileRecord.named "x").satisfies .universal ⟨.name, .gt, "1"⟩ =
        .error (.nonNumericOperand .name .gt "x") ∧
      ∃ results results', ofRecords .universal conditions records = .ok results ∧
        ofRecords .universal conditions others = .ok results' ∧
        results.get? "d/7" = some large ∧ results.paths = results'.paths := by
  intro conditions large records others
  have perm : records.Perm others := by decide
  rcases ofRecords_scans_in_order .universal conditions records with ⟨-, -, keeps, order⟩
  have succeeds : ∃ results, ofRecords .universal conditions records = .ok results := by
    rw [exists_ofRecords_eq_ok_iff]
    simp only [records, List.forall_mem_cons]
    exact ⟨⟨true, by decide⟩, ⟨false, by decide⟩, ⟨false, by decide⟩, List.forall_mem_nil _⟩
  rcases succeeds with ⟨results, filtered⟩
  rcases (order others perm).1.1 ⟨results, filtered⟩ with ⟨results', filtered'⟩
  refine ⟨perm, by decide, results, results', filtered, filtered', ?_,
    (order others perm).2 _ _ filtered filtered'⟩
  rw [(keeps _ filtered).get?_eq_some_iff]
  refine ⟨[], [.named "7", .named "x"], rfl, rfl, ?_, ?_⟩
  · exact FileRecord.passes_eq_true_iff.1 (by decide)
  · have smaller : ∀ later ∈ [FileRecord.named "7", FileRecord.named "x"],
        later.passes .universal conditions ≠ .ok true := by
      decide
    intro later member _ satisfied
    exact smaller later member (FileRecord.passes_eq_true_iff.2 satisfied)

end ResultSet

end FileQuery
