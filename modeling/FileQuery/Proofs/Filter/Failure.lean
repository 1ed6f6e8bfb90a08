import FileQuery.Proofs.Filter.Comparison
import FileQuery.Proofs.Filter.LastPassing
import FileQuery.Proofs.Query.RoundTrip

/-!
# Why filtering fails

A query that was read has at most one condition, on a field that conditions may use. Filtering some
records by it fails because of the operator, because of the literal, or because of a record whose
text is no integer. Only the last reason depends on the records: dates and integers always compare,
so that the literal alone decides, and without any record nothing is compared at all.
-/

namespace FileQuery

open Calendar (Zone)

/-- An ordering operator finds no integer in the text of the record's field or in the literal. -/
def Condition.AtFault (zone : Zone) (condition : Condition) (record : FileRecord) : Prop :=
  ¬Decimal.IsInt64Text (record.renderField zone condition.field).toList ∨
    ¬Decimal.IsInt64Text condition.value.toList

/-- The first of some records at which an ordering operator is at fault. -/
def Condition.IsFirstAtFault (zone : Zone) (condition : Condition) (records : List FileRecord)
    (record : FileRecord) : Prop :=
  ∃ before rest, records = before ++ record :: rest ∧
    (∀ earlier ∈ before, ¬condition.AtFault zone earlier) ∧ condition.AtFault zone record

/-- Why filtering some records by a condition fails, with the error that says so. Of a text that is
no integer and a literal that is none, the error names the text. -/
inductive Condition.Fails (zone : Zone) (condition : Condition) (records : List FileRecord) :
    EvalError → Prop where
  | operator (bang : condition.operator = .bang) :
      Fails zone condition records (.unsupportedOperator .bang)
  | date (ordering : condition.operator.isOrdering = true) (kind : condition.field.kind = .date)
      (rejected : ∀ instant, dateOperand zone condition.field condition.value ≠ .ok instant) :
      Fails zone condition records (.invalidDate condition.field condition.value)
  | integer (ordering : condition.operator.isOrdering = true)
      (kind : condition.field.kind = .integer)
      (noInteger : ¬Decimal.IsInt64Text condition.value.toList) :
      Fails zone condition records
        (.nonNumericOperand condition.field condition.operator condition.value)
  | recordText {record : FileRecord} (ordering : condition.operator.isOrdering = true)
      (kind : condition.field.kind = .text)
      (first : condition.IsFirstAtFault zone records record)
      (noInteger : ¬Decimal.IsInt64Text (record.renderField zone condition.field).toList) :
      Fails zone condition records (.nonNumericOperand condition.field condition.operator
        (record.renderField zone condition.field))
  | literal {record : FileRecord} (ordering : condition.operator.isOrdering = true)
      (kind : condition.field.kind = .text)
      (first : condition.IsFirstAtFault zone records record)
      (isInteger : Decimal.IsInt64Text (record.renderField zone condition.field).toList) :
      Fails zone condition records
        (.nonNumericOperand condition.field condition.operator condition.value)

variable {zone : Zone} {condition : Condition} {records : List FileRecord} {error : EvalError}

namespace FileRecord

theorem exists_project_eq_ok (filterable : condition.field.filterable = true)
    (record : FileRecord) : ∃ value, record.project condition.field = .ok value := by
  cases kind : condition.field.kind with
  | text => exact ⟨_, record.project_eq_text kind filterable .universal⟩
  | integer =>
      rcases record.exists_project_eq_integer kind with ⟨number, projected⟩
      exact ⟨_, projected⟩
  | date =>
      rcases record.exists_project_eq_date kind with ⟨instant, projected⟩
      exact ⟨_, projected⟩

theorem satisfies_eq_error_iff_of_isOrdering {record : FileRecord} {value : FieldValue}
    (ordering : condition.operator.isOrdering = true)
    (projected : record.project condition.field = .ok value) :
    record.satisfies zone condition = .error error ↔
      value.order zone condition = .error error := by
  rw [satisfies_of_project_eq_ok projected, FieldValue.satisfies_of_isOrdering ordering,
    Outcome.map_eq_error_iff]

theorem satisfies_eq_error_iff_of_bang (bang : condition.operator = .bang)
    (filterable : condition.field.filterable = true) (record : FileRecord) :
    record.satisfies zone condition = .error error ↔ error = .unsupportedOperator .bang := by
  rcases record.exists_project_eq_ok filterable with ⟨value, projected⟩
  rw [satisfies_of_project_eq_ok projected, FieldValue.satisfies, bang, Except.error.injEq,
    eq_comm]

/-- Equality and patterns never fail. -/
theorem satisfies_ne_error (noBang : condition.operator ≠ .bang)
    (noOrdering : condition.operator.isOrdering = false)
    (filterable : condition.field.filterable = true) (record : FileRecord) :
    record.satisfies zone condition ≠ .error error := by
  rcases record.exists_project_eq_ok filterable with ⟨value, projected⟩
  rw [satisfies_of_project_eq_ok projected, FieldValue.satisfies]
  cases operator : condition.operator with
  | eq | ne | like => simp
  | bang => exact absurd operator noBang
  | lt | le | gt | ge => simp [operator, Operator.isOrdering] at noOrdering

section Ordering

variable (ordering : condition.operator.isOrdering = true)
include ordering

theorem satisfies_eq_error_iff_of_date (kind : condition.field.kind = .date)
    (record : FileRecord) :
    record.satisfies zone condition = .error error ↔
      (∀ instant, dateOperand zone condition.field condition.value ≠ .ok instant) ∧
        error = .invalidDate condition.field condition.value := by
  rcases record.exists_project_eq_date kind with ⟨instant, projected⟩
  rw [satisfies_eq_error_iff_of_isOrdering ordering projected, FieldValue.order,
    Outcome.bind_eq_error_iff, dateOperand_eq_error_iff]
  simp

theorem satisfies_eq_error_iff_of_integer (kind : condition.field.kind = .integer)
    (record : FileRecord) :
    record.satisfies zone condition = .error error ↔
      ¬Decimal.IsInt64Text condition.value.toList ∧
        error = .nonNumericOperand condition.field condition.operator condition.value := by
  rcases record.exists_project_eq_integer kind with ⟨number, projected⟩
  rw [satisfies_eq_error_iff_of_isOrdering ordering projected, FieldValue.order,
    Outcome.bind_eq_error_iff, integerOperand_eq_error_iff]
  simp

/-- The record's text is looked at before the literal. -/
theorem satisfies_eq_error_iff_of_text (kind : condition.field.kind = .text)
    (filterable : condition.field.filterable = true) (record : FileRecord) :
    record.satisfies zone condition = .error error ↔
      (¬Decimal.IsInt64Text (record.renderField zone condition.field).toList ∧
        error = .nonNumericOperand condition.field condition.operator
          (record.renderField zone condition.field)) ∨
      (Decimal.IsInt64Text (record.renderField zone condition.field).toList ∧
        ¬Decimal.IsInt64Text condition.value.toList ∧
        error = .nonNumericOperand condition.field condition.operator condition.value) := by
  rw [satisfies_eq_error_iff_of_isOrdering ordering (record.project_eq_text kind filterable zone),
    FieldValue.order, Outcome.bind_eq_error_iff, integerOperand_eq_error_iff,
    ← exists_integerOperand_eq_ok_iff condition.field condition.operator
      (record.renderField zone condition.field)]
  simp [Outcome.bind_eq_error_iff, integerOperand_eq_error_iff]

theorem atFault_iff (kind : condition.field.kind = .text)
    (filterable : condition.field.filterable = true) (record : FileRecord) :
    condition.AtFault zone record ↔
      ∃ failure, record.satisfies zone condition = .error failure := by
  simp only [record.satisfies_eq_error_iff_of_text ordering kind filterable, exists_or,
    exists_eq_right, exists_and_left, Condition.AtFault]
  tauto

end Ordering

end FileRecord

/-- Whether a condition fails and how does not depend on the record, unless it compares texts. -/
theorem Condition.satisfies_eq_error_iff_fails (filterable : condition.field.filterable = true)
    (noTexts : condition.operator.isOrdering = true → condition.field.kind ≠ .text)
    (records : List FileRecord) (record : FileRecord) :
    record.satisfies zone condition = .error error ↔ condition.Fails zone records error := by
  constructor
  · intro fails
    by_cases bang : condition.operator = .bang
    · cases (record.satisfies_eq_error_iff_of_bang bang filterable).1 fails
      exact .operator bang
    · cases ordering : condition.operator.isOrdering with
      | false => exact absurd fails (record.satisfies_ne_error bang ordering filterable)
      | true =>
          cases kind : condition.field.kind with
          | text => exact absurd kind (noTexts ordering)
          | date =>
              rcases (record.satisfies_eq_error_iff_of_date ordering kind).1 fails with
                ⟨rejected, rfl⟩
              exact .date ordering kind rejected
          | integer =>
              rcases (record.satisfies_eq_error_iff_of_integer ordering kind).1 fails with
                ⟨noInteger, rfl⟩
              exact .integer ordering kind noInteger
  · intro fails
    cases fails with
    | operator bang => exact (record.satisfies_eq_error_iff_of_bang bang filterable).2 rfl
    | date ordering kind rejected =>
        exact (record.satisfies_eq_error_iff_of_date ordering kind).2 ⟨rejected, rfl⟩
    | integer ordering kind noInteger =>
        exact (record.satisfies_eq_error_iff_of_integer ordering kind).2 ⟨noInteger, rfl⟩
    | recordText ordering kind | literal ordering kind => exact absurd kind (noTexts ordering)

namespace ResultSet

theorem ofRecords_singleton_eq_error_iff :
    ofRecords zone [condition] records = .error error ↔
      ∃ record, FirstFailure (fun record outcome => record.satisfies zone condition = outcome)
        records record error := by
  simp only [ofRecords_eq_error_iff, FileRecord.passes_singleton]

/-- Where texts are compared, the records before the first failure are not at fault. -/
theorem firstFailure_iff_of_text (ordering : condition.operator.isOrdering = true)
    (kind : condition.field.kind = .text) (filterable : condition.field.filterable = true)
    {record : FileRecord} :
    FirstFailure (fun record outcome => record.satisfies zone condition = outcome) records record
        error ↔
      condition.IsFirstAtFault zone records record ∧
        record.satisfies zone condition = .error error := by
  have fault : ∀ record, condition.AtFault zone record ↔
      ∃ failure, record.satisfies zone condition = .error failure :=
    FileRecord.atFault_iff ordering kind filterable
  simp only [FirstFailure, Outcome.exists_eq_ok_iff, ← fault, Condition.IsFirstAtFault]
  constructor
  · rintro ⟨before, rest, split, succeed, fails⟩
    exact ⟨⟨before, rest, split, succeed, (fault record).2 ⟨error, fails⟩⟩, fails⟩
  · rintro ⟨⟨before, rest, split, succeed, -⟩, fails⟩
    exact ⟨before, rest, split, succeed, fails⟩

theorem ofRecords_singleton_eq_error_iff_of_text (ordering : condition.operator.isOrdering = true)
    (kind : condition.field.kind = .text) (filterable : condition.field.filterable = true) :
    ofRecords zone [condition] records = .error error ↔
      condition.Fails zone records error := by
  simp only [ofRecords_singleton_eq_error_iff, firstFailure_iff_of_text ordering kind filterable,
    FileRecord.satisfies_eq_error_iff_of_text ordering kind filterable]
  constructor
  · rintro ⟨record, first, ⟨noInteger, rfl⟩ | ⟨isInteger, -, rfl⟩⟩
    · exact .recordText ordering kind first noInteger
    · exact .literal ordering kind first isInteger
  · intro fails
    cases fails with
    | operator bang => simp [bang, Operator.isOrdering] at ordering
    | date _ other | integer _ other => simp [kind] at other
    | @recordText record _ _ first noInteger =>
        exact ⟨record, first, Or.inl ⟨noInteger, rfl⟩⟩
    | @literal record _ _ first isInteger =>
        rcases first with ⟨before, rest, split, succeed, fault⟩
        have noInteger := fault.resolve_left (not_not_intro isInteger)
        exact ⟨record, ⟨before, rest, split, succeed, fault⟩,
          Or.inr ⟨isInteger, noInteger, rfl⟩⟩

theorem ofRecords_singleton_eq_error_iff_fails (filterable : condition.field.filterable = true) :
    ofRecords zone [condition] records = .error error ↔
      records ≠ [] ∧ condition.Fails zone records error := by
  by_cases texts : condition.operator.isOrdering = true ∧ condition.field.kind = .text
  · rcases texts with ⟨ordering, kind⟩
    rw [← ofRecords_singleton_eq_error_iff_of_text ordering kind filterable]
    refine ⟨fun fails => ⟨?_, fails⟩, And.right⟩
    rintro rfl
    cases fails
  · rw [ofRecords_singleton_eq_error_iff]
    apply exists_firstFailure_iff_of_uniform
    intro record failure
    exact condition.satisfies_eq_error_iff_fails filterable (not_and.1 texts) records record

end ResultSet

theorem conditions_of_parse_eq_ok {text : String} {query : Query}
    (parsed : Query.parse text = .ok query) :
    query.conditions = [] ∨
      ∃ condition, query.conditions = [condition] ∧ condition.field.filterable = true := by
  rcases Query.denotes_of_ofChars_eq_ok parsed with
    ⟨_, _, _, _, -, -, -, -, -, -, -, -, clause⟩
  rcases Query.conditions_of_conditionClause clause with ⟨one, filterable⟩
  cases conditions : query.conditions with
  | nil => exact Or.inl rfl
  | cons condition rest =>
      rw [conditions] at one filterable
      have single : rest = [] := List.eq_nil_of_length_eq_zero (by simpa using one)
      exact Or.inr ⟨condition, by rw [single], (filterable condition List.mem_cons_self).1⟩

/-- When filtering by the condition of a query that was read fails, and with which error. The error
is never that the field cannot be compared, and unless texts are compared it is the same for all
lists of records but the empty one. -/
theorem ofRecords_eq_error_iff_of_parse {text : String} {query : Query}
    (parsed : Query.parse text = .ok query) (zone : Zone) (records : List FileRecord) :
    (∀ error, ResultSet.ofRecords zone query.conditions records = .error error ↔
      records ≠ [] ∧ ∃ condition ∈ query.conditions, condition.Fails zone records error) ∧
    (∀ field, ResultSet.ofRecords zone query.conditions records ≠
      .error (.notFilterable field)) ∧
    ∀ condition ∈ query.conditions, condition.field.kind ≠ .text →
      ∀ others, records ≠ [] → others ≠ [] → ∀ error,
        (ResultSet.ofRecords zone query.conditions records = .error error ↔
          ResultSet.ofRecords zone query.conditions others = .error error) := by
  rcases conditions_of_parse_eq_ok parsed with none | ⟨condition, single, filterable⟩
  · rcases ResultSet.exists_ofRecords_nil zone records with ⟨results, filtered⟩
    simp [none, filtered]
  · have failure : ∀ records error, ResultSet.ofRecords zone [condition] records = .error error ↔
        records ≠ [] ∧ condition.Fails zone records error :=
      fun _ _ => ResultSet.ofRecords_singleton_eq_error_iff_fails filterable
    simp only [single, List.mem_singleton, exists_eq_left, forall_eq]
    refine ⟨failure records, ?_, ?_⟩
    · intro field fails
      rcases (failure records _).1 fails with ⟨-, reason⟩
      cases reason
    · intro noText others nonempty nonempty' error
      rcases List.exists_mem_of_ne_nil records nonempty with ⟨record, -⟩
      have alike : ∀ records, record.satisfies zone condition = .error error ↔
          condition.Fails zone records error := fun records =>
        condition.satisfies_eq_error_iff_fails filterable (fun _ => noText) records record
      rw [failure, failure, and_iff_right nonempty, and_iff_right nonempty', ← alike, ← alike]

/-- A query that compares names as integers. -/
def largeNamesQuery : Query where
  fields := [.all]
  paths := ["d"]
  conditions := [⟨.name, .gt, "1"⟩]

/-- A record of an empty file in the directory `d`. -/
def FileRecord.named (name : String) : FileRecord where
  name
  path := "d/" ++ name
  extension := ""
  modified := 0
  created := 0
  owner := ""
  group := ""
  size := 0
  kind := .file
  mode := .ofRaw 0o644
  links := 1

/-- The second name is the first that is no integer. -/
theorem ofRecords_eq_error_second_name :
    Query.parse "SELECT * FROM d WHERE name > 1" = .ok largeNamesQuery ∧
      ResultSet.ofRecords .universal largeNamesQuery.conditions
        [.named "7", .named "x", .named "y"] =
          .error (.nonNumericOperand .name .gt "x") := by
  have parsed : Query.parse "SELECT * FROM d WHERE name > 1" = .ok largeNamesQuery := by cbv
  have seven : Decimal.IsInt64Text ['7'] :=
    ⟨7, Decimal.readInt64?_eq_some_iff.1 (by decide)⟩
  have one : Decimal.IsInt64Text ['1'] :=
    ⟨1, Decimal.readInt64?_eq_some_iff.1 (by decide)⟩
  have letter : ¬Decimal.IsInt64Text ['x'] := Decimal.readInt64?_eq_none_iff.1 (by decide)
  have first : Condition.IsFirstAtFault .universal ⟨.name, .gt, "1"⟩
      [.named "7", .named "x", .named "y"] (.named "x") := by
    refine ⟨[.named "7"], [.named "y"], rfl, ?_, Or.inl letter⟩
    intro earlier member
    rw [List.mem_singleton.1 member]
    exact not_or_intro (not_not_intro seven) (not_not_intro one)
  refine ⟨parsed, ?_⟩
  rw [(ofRecords_eq_error_iff_of_parse parsed _ _).1]
  exact ⟨by simp, _, List.mem_singleton_self _, .recordText rfl rfl first letter⟩

end FileQuery
