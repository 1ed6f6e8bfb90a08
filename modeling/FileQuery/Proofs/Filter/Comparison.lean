import FileQuery.Filter.Comparison
import FileQuery.Proofs.Number.Decimal
import FileQuery.Proofs.Outcome

/-!
# Conditions on values

A single condition decides a record as it decides the value of its field, and the kind of that
value is the kind of the field. The ordering operators first find the order of the value and the
literal, which is where they can fail, and then decide by that order alone.
-/

namespace FileQuery

open Calendar (Zone DateLiteral)

variable {zone : Zone} {condition : Condition}

theorem dateOperand_eq_ok_iff {field : Field} {text : String} {instant : Int} :
    dateOperand zone field text = .ok instant ↔
      (DateLiteral.ofChars? text.toList).bind (DateLiteral.instant? zone) = some instant := by
  rw [dateOperand]
  cases (DateLiteral.ofChars? text.toList).bind (DateLiteral.instant? zone) <;> simp

theorem dateOperand_eq_error_iff {field : Field} {text : String} {error : EvalError} :
    dateOperand zone field text = .error error ↔
      (∀ instant, dateOperand zone field text ≠ .ok instant) ∧ error = .invalidDate field text := by
  rw [dateOperand]
  cases (DateLiteral.ofChars? text.toList).bind (DateLiteral.instant? zone) with
  | some instant => simp
  | none => simp [eq_comm]

theorem integerOperand_eq_ok_iff {field : Field} {operator : Operator} {text : String}
    {number : Int} :
    integerOperand field operator text = .ok number ↔
      Decimal.readInt64? text.toList = some number := by
  rw [integerOperand]
  cases Decimal.readInt64? text.toList <;> simp

theorem integerOperand_eq_error_iff {field : Field} {operator : Operator} {text : String}
    {error : EvalError} :
    integerOperand field operator text = .error error ↔
      ¬Decimal.IsInt64Text text.toList ∧ error = .nonNumericOperand field operator text := by
  rw [integerOperand, ← Decimal.readInt64?_eq_none_iff]
  cases Decimal.readInt64? text.toList with
  | some number => simp
  | none => simp [eq_comm]

theorem exists_integerOperand_eq_ok_iff (field : Field) (operator : Operator) (text : String) :
    (∃ number, integerOperand field operator text = .ok number) ↔
      Decimal.IsInt64Text text.toList := by
  rw [← not_iff_not, ← Decimal.readInt64?_eq_none_iff, integerOperand]
  cases Decimal.readInt64? text.toList with
  | some number => simp
  | none => simp

theorem saturated_eq_min (word : UInt64) :
    saturated word = ((min word.toNat (2 ^ 63 - 1) : Nat) : Int) := by
  have largest : Decimal.maxInt64 = ((2 ^ 63 - 1 : Nat) : Int) := rfl
  rw [saturated, largest, Nat.cast_min]

/-- The relation of integers that an ordering operator stands for. -/
def Operator.Relates (operator : Operator) (left right : Int) : Prop :=
  match operator with
  | .lt => left < right
  | .le => left ≤ right
  | .gt => right < left
  | .ge => right ≤ left
  | .eq | .bang | .ne | .like => False

theorem Operator.satisfiedBy_compare_iff {operator : Operator} {left right : Int} :
    operator.satisfiedBy (compare left right) = true ↔ operator.Relates left right := by
  cases operator with
  | lt => exact Ordering.isLT_iff_eq_lt.trans compare_lt_iff_lt
  | le => exact Int.isLE_compare
  | gt => exact Ordering.isGT_iff_eq_gt.trans compare_gt_iff_gt
  | ge => exact Int.isGE_compare
  | eq | bang | ne | like => simp [satisfiedBy, Relates]

theorem FieldValue.satisfies_of_isOrdering (ordering : condition.operator.isOrdering = true)
    (value : FieldValue) : value.satisfies zone condition =
      (value.order zone condition).map condition.operator.satisfiedBy := by
  rcases condition with ⟨field, operator, literal⟩
  cases operator with
  | lt | le | gt | ge => rfl
  | eq | bang | ne | like => cases ordering

/-- An instant is compared with the instant that the literal denotes. -/
theorem FieldValue.satisfies_date_iff {literal : Int}
    (ordering : condition.operator.isOrdering = true)
    (denotes : dateOperand zone condition.field condition.value = .ok literal) {instant : Int} :
    (FieldValue.date instant).satisfies zone condition = .ok true ↔
      condition.operator.Relates instant literal := by
  rw [satisfies_of_isOrdering ordering, order, denotes, Outcome.ok_bind, Outcome.map_eq_ok_iff]
  simp [Operator.satisfiedBy_compare_iff]

namespace FileRecord

theorem exists_project_eq_integer {field : Field} (kind : field.kind = .integer)
    (record : FileRecord) : ∃ number, record.project field = .ok (.integer number) := by
  cases field with
  | links => exact ⟨_, rfl⟩
  | fileSize => exact ⟨_, rfl⟩
  | _ => cases kind

theorem exists_project_eq_date {field : Field} (kind : field.kind = .date)
    (record : FileRecord) : ∃ instant, record.project field = .ok (.date instant) := by
  cases field with
  | modified => exact ⟨_, rfl⟩
  | created => exact ⟨_, rfl⟩
  | _ => cases kind

theorem project_eq_text {field : Field} (kind : field.kind = .text)
    (filterable : field.filterable = true) (zone : Zone) (record : FileRecord) :
    record.project field = .ok (.text (record.renderField zone field)) := by
  cases field with
  | all => cases filterable
  | links | fileSize | modified | created => cases kind
  | permission | owner | group | name | extension | path | type => rfl

theorem satisfies_of_project_eq_ok {record : FileRecord} {value : FieldValue}
    (projected : record.project condition.field = .ok value) :
    record.satisfies zone condition = value.satisfies zone condition := by
  rw [satisfies, projected, Outcome.ok_bind]

theorem passes_singleton (record : FileRecord) (condition : Condition) :
    record.passes zone [condition] = record.satisfies zone condition := by
  simp only [passes]
  cases record.satisfies zone condition with
  | error error => rfl
  | ok satisfied => cases satisfied <;> rfl

end FileRecord

end FileQuery
