import FileQuery.Filter.Like
import FileQuery.Filter.Value
import FileQuery.Query.Basic

/-!
# Evaluation of conditions

Equality and patterns look at the text of a value and always have an answer. The ordering
operators compare integers with integers, dates with the instants that date literals denote, and
texts only if both sides are texts of integers; anything else is an error.
-/

namespace FileQuery

open Calendar (Zone)

/-- The integer that an operand of an ordering operator denotes. -/
def integerOperand (field : Field) (operator : Operator) (text : String) :
    Except EvalError Int :=
  match Decimal.readInt64? text.toList with
  | some number => .ok number
  | none => .error (.nonNumericOperand field operator text)

def dateOperand (zone : Zone) (field : Field) (text : String) : Except EvalError Int :=
  match (Calendar.DateLiteral.ofChars? text.toList).bind (·.instant? zone) with
  | some instant => .ok instant
  | none => .error (.invalidDate field text)

def FieldValue.order (zone : Zone) (condition : Condition) :
    FieldValue → Except EvalError Ordering
  | integer number => do
      let literal ← integerOperand condition.field condition.operator condition.value
      .ok (compare number literal)
  | date instant => do
      let literal ← dateOperand zone condition.field condition.value
      .ok (compare instant literal)
  | text content => do
      let number ← integerOperand condition.field condition.operator content
      let literal ← integerOperand condition.field condition.operator condition.value
      .ok (compare number literal)

/-- Whether a value satisfies a condition, whose field is only named in errors. -/
def FieldValue.satisfies (zone : Zone) (condition : Condition) (value : FieldValue) :
    Except EvalError Bool :=
  match condition.operator with
  | .eq => .ok (value.render zone == condition.value)
  | .ne => .ok (value.render zone != condition.value)
  | .like => .ok (Like.accepts condition.value.toList (value.render zone).toList)
  | .bang => .error (.unsupportedOperator .bang)
  | .lt | .le | .gt | .ge => do
      let order ← value.order zone condition
      .ok (condition.operator.satisfiedBy order)

namespace FileRecord

def satisfies (zone : Zone) (record : FileRecord) (condition : Condition) :
    Except EvalError Bool := do
  let value ← record.project condition.field
  value.satisfies zone condition

/-- Whether a record satisfies all conditions, looked at from left to right up to the first that
it does not satisfy. -/
def passes (zone : Zone) (record : FileRecord) : List Condition → Except EvalError Bool
  | [] => .ok true
  | condition :: conditions => do
      if ← record.satisfies zone condition then
        record.passes zone conditions
      else
        .ok false

end FileRecord

end FileQuery
