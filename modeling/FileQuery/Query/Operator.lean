/-!
# Comparison operators

The operators of a condition and their spellings. `<=` has the second spelling `=<`; every other
operator has one. The bare `!` can be written but has no meaning, which is found out only when a
condition is evaluated.
-/

namespace FileQuery

inductive Operator where
  | eq
  | bang
  | ne
  | lt
  | le
  | gt
  | ge
  | like
  deriving DecidableEq, Repr

namespace Operator

def symbol : Operator → String
  | eq => "="
  | bang => "!"
  | ne => "!="
  | lt => "<"
  | le => "<="
  | gt => ">"
  | ge => ">="
  | like => "LIKE"

def spellings : List (String × Operator) :=
  [("=", eq), ("!", bang), ("!=", ne), ("<", lt), ("<=", le), ("=<", le), (">", gt), (">=", ge),
    ("LIKE", like)]

def named? (word : String) : Option Operator :=
  spellings.lookup word

def isOrdering : Operator → Bool
  | lt | le | gt | ge => true
  | eq | bang | ne | like => false

/-- Whether the order of two values satisfies the operator; no other operator is ever satisfied. -/
def satisfiedBy : Operator → Ordering → Bool
  | lt, order => order.isLT
  | le, order => order.isLE
  | gt, order => order.isGT
  | ge, order => order.isGE
  | _, _ => false

end Operator

end FileQuery
