import FileQuery.Query.Field
import FileQuery.Query.Operator
import FileQuery.Number.Decimal

/-!
# Parse errors

The reasons for which a text is not a query, each with the piece of the text or the position that
shows it, and the wording of each.
-/

namespace FileQuery

/-- Why a text is not a query. Positions count bytes of UTF-8 from the start of the text. -/
inductive ParseError where
  | emptyInput
  | emptyQuery
  | unexpectedEnd (position : Nat)
  | unknownCommand (word : String)
  | unknownField (word : String)
  | noFields
  | missingFrom
  | missingCondition
  | notFilterable (field : Field)
  | unknownOperator (word : String)
  | missingValue (operator : Operator)
  | unterminatedQuote (position : Nat)
  | unsupportedClause (keyword : String)
  | trailingInput (rest : String)
  deriving DecidableEq, Repr

def ParseError.message : ParseError → String
  | emptyInput => "input is empty"
  | emptyQuery => "empty query"
  | unexpectedEnd position => "unexpected end of input at byte " ++ Decimal.ofNat position
  | unknownCommand word => "parse command: unknown command \"" ++ word ++ "\""
  | unknownField word => "parse fields: unknown field name \"" ++ word ++ "\""
  | noFields => "parse fields: no field selected"
  | missingFrom => "parse paths: missing FROM paths"
  | missingCondition => "parse conditions: missing condition after WHERE"
  | notFilterable field =>
      "parse conditions: field \"" ++ field.keyword ++ "\" cannot be used in a condition"
  | unknownOperator word => "parse conditions: unknown operator \"" ++ word ++ "\""
  | missingValue operator =>
      "parse conditions: missing value after operator \"" ++ operator.symbol ++ "\""
  | unterminatedQuote position => "unterminated quote starting at byte " ++ Decimal.ofNat position
  | unsupportedClause keyword => "unsupported clause \"" ++ keyword ++ "\""
  | trailingInput rest => "unexpected input after condition: \"" ++ rest ++ "\""

end FileQuery
