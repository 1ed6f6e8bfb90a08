import FileQuery.Calendar.Timestamp
import FileQuery.Query.Field
import FileQuery.Query.Operator
import FileQuery.Record.Basic

/-!
# Values of fields

A field of a record has a value of one of three kinds. Sizes and link counts are machine words
without sign and become integers of 64 bits with sign, the largest of which stands for everything
above it. The text of a value is what equality and patterns look at, and what is printed.
-/

namespace FileQuery

inductive EvalError where
  | nonNumericOperand (field : Field) (operator : Operator) (value : String)
  | invalidDate (field : Field) (value : String)
  | unsupportedOperator (operator : Operator)
  | notFilterable (field : Field)
  deriving DecidableEq, Repr

def EvalError.message : EvalError → String
  | nonNumericOperand field operator value =>
      "operator \"" ++ operator.symbol ++ "\" on " ++ field.keyword ++
        " needs integer operands, got \"" ++ value ++ "\""
  | invalidDate field value =>
      "invalid date \"" ++ value ++ "\" for " ++ field.keyword ++
        ", expected YYYY-MM-DD, YYYY-MM-DD HH:MM:SS or epoch seconds"
  | unsupportedOperator operator => "unknown operator \"" ++ operator.symbol ++ "\""
  | notFilterable field => "field \"" ++ field.keyword ++ "\" cannot be compared"

/-- The value of a field. Dates are seconds since the start of 1970. -/
inductive FieldValue where
  | text (content : String)
  | integer (number : Int)
  | date (instant : Int)
  deriving DecidableEq, Repr

def FieldValue.render (zone : Calendar.Zone) : FieldValue → String
  | text content => content
  | integer number => Decimal.ofInt number
  | date instant => zone.render instant

/-- A machine word as an integer of 64 bits with sign, at most the largest of them. -/
def saturated (word : UInt64) : Int :=
  min (word.toNat : Int) Decimal.maxInt64

namespace FileRecord

def project (record : FileRecord) : Field → Except EvalError FieldValue
  | .all => .error (.notFilterable .all)
  | .permission => .ok (.text record.mode.render)
  | .links => .ok (.integer (saturated record.links))
  | .owner => .ok (.text record.owner)
  | .group => .ok (.text record.group)
  | .fileSize => .ok (.integer (saturated record.size))
  | .modified => .ok (.date record.modified)
  | .created => .ok (.date record.created)
  | .name => .ok (.text record.name)
  | .extension => .ok (.text record.extension)
  | .path => .ok (.text record.path)
  | .type => .ok (.text record.kind.word)

def renderField (record : FileRecord) (zone : Calendar.Zone) (field : Field) : String :=
  match record.project field with
  | .ok value => value.render zone
  | .error _ => ""

end FileRecord

end FileQuery
