import FileQuery.Filter.Comparison
import FileQuery.Record.PathMap

/-!
# Result sets

The records that satisfy the conditions of a query, keyed by their paths. Of several such records
with one path the last is kept. The first error of any record ends the whole filter.
-/

namespace FileQuery

abbrev ResultSet := PathMap FileRecord

namespace ResultSet

/-- Adds the records that satisfy the conditions to a result set, in the order given. -/
def addPassing (zone : Calendar.Zone) (conditions : List Condition) (results : ResultSet) :
    List FileRecord → Except EvalError ResultSet
  | [] => .ok results
  | record :: records => do
      let passes ← record.passes zone conditions
      addPassing zone conditions
        (if passes then results.insert record.path record else results) records

def ofRecords (zone : Calendar.Zone) (conditions : List Condition) (records : List FileRecord) :
    Except EvalError ResultSet :=
  addPassing zone conditions PathMap.empty records

end ResultSet

end FileQuery
