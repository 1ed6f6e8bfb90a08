import FileQuery.Output.Printer
import FileQuery.Proofs.Filter.LastPassing

/-!
# What a printer writes

A printer writes nothing before it is finished, so that what it prints for some records is decided
by the state in which they leave it: a table printer has a row for each of them, and a JSON printer
a member for each of their paths. A result set is keyed by the paths of its records and ascends, so
that each of its records becomes a member of its own, in the same order.
-/

namespace FileQuery

@[simp]
theorem Written.out_append (first second : Written) :
    (first ++ second).out = first.out ++ second.out := rfl

@[simp]
theorem Written.err_append (first second : Written) :
    (first ++ second).err = first.err ++ second.err := rfl

theorem Written.out_foldl_append (start : Written) (writings : List Written) :
    (writings.foldl (· ++ ·) start).out = start.out ++ writings.flatMap Written.out := by
  induction writings generalizing start with
  | nil => simp
  | cons written writings ih => simp [ih]

namespace Printer

variable {zone : Calendar.Zone}

/-- The printer that some steps leave behind. -/
def after (zone : Calendar.Zone) (printer : Printer) : List PrintStep → Printer
  | [] => printer
  | step :: steps => (printer.perform zone step).1.after zone steps

theorem performAll_cons (printer : Printer) (step : PrintStep) (steps : List PrintStep) :
    printer.performAll zone (step :: steps) =
      (printer.perform zone step).2 :: (printer.perform zone step).1.performAll zone steps := rfl

theorem performAll_append (printer : Printer) (steps later : List PrintStep) :
    printer.performAll zone (steps ++ later) =
      printer.performAll zone steps ++ (printer.after zone steps).performAll zone later := by
  induction steps generalizing printer with
  | nil => rfl
  | cons step steps ih => exact congrArg _ (ih (printer.perform zone step).1)

/-- Records alone make no printer write. -/
theorem out_performAll_records (printer : Printer) (records : List FileRecord) :
    (printer.performAll zone (records.map .record)).flatMap Written.out = [] := by
  induction records generalizing printer with
  | nil => rfl
  | cons record records ih => cases printer <;> exact ih _

/-- What is printed for some records is written when the printer is finished. -/
theorem out_printResults (printer : Printer) (context : PrintContext)
    (records : List FileRecord) :
    (printer.printResults zone context records).out =
      ((((printer.perform zone (.begin context)).1.after zone
        (records.map .record)).perform zone (.finish context)).2).out := by
  have begun : (printer.perform zone (.begin context)).2.out = [] := by
    cases printer <;> rfl
  rw [printResults, Written.out_foldl_append, List.cons_append, performAll_cons, performAll_append]
  simp [begun, out_performAll_records, performAll]

theorem after_records_table (printer : TablePrinter) (records : List FileRecord) :
    (table printer).after zone (records.map .record) =
      table { printer with
        rows := printer.rows ++ records.map (Table.row zone printer.columns) } := by
  induction records generalizing printer with
  | nil => simp [after]
  | cons record records ih =>
      refine (ih (printer.record zone record)).trans ?_
      simp [TablePrinter.record]

/-- A printed table has the columns of the query and a row for each record, whatever was printed
before. -/
theorem out_printResults_table (printer : TablePrinter) (context : PrintContext)
    (records : List FileRecord) :
    ((table printer).printResults zone context records).out =
      Table.render printer.color (Field.expand context.query.fields)
        (records.map (Table.row zone (Field.expand context.query.fields))) := by
  rw [out_printResults]
  simp [perform, TablePrinter.begin, after_records_table, TablePrinter.finish]

theorem after_records_json (printer : JsonPrinter) (records : List FileRecord) :
    (json printer).after zone (records.map .record) =
      json { printer with
        records := records.foldl
          (fun members record => members.insert record.path (JsonPrinter.recordValue zone record))
          printer.records } := by
  induction records generalizing printer with
  | nil => rfl
  | cons record records ih => exact ih (printer.record zone record)

theorem out_printResults_json (printer : JsonPrinter) (context : PrintContext)
    (records : List FileRecord) :
    ((json printer).printResults zone context records).out =
      (JsonValue.object (records.foldl
        (fun members record => members.insert record.path (JsonPrinter.recordValue zone record))
        PathMap.empty).rows).pretty 0 ++ ['\n'] := by
  rw [out_printResults]
  simp [perform, JsonPrinter.begin, after_records_json, JsonPrinter.finish]

end Printer

namespace PathMap

variable {α : Type}

/-- A path behind all others is put at the end. -/
theorem insertRow_of_forall_lt {path : String} {rows : List (String × α)}
    (behind : ∀ row ∈ rows, row.1 < path) (value : α) :
    insertRow path value rows = rows ++ [(path, value)] := by
  induction rows with
  | nil => rfl
  | cons head rest ih =>
      rcases head with ⟨other, previous⟩
      have less : other < path := behind _ List.mem_cons_self
      have rest_eq := ih fun row member => behind row (List.mem_cons_of_mem _ member)
      rw [insertRow, if_neg (lt_asymm less), if_neg (ne_of_lt less).symm, rest_eq,
        List.cons_append]

end PathMap

namespace ResultSet

/-- Each record of a result set is stored under its own path. -/
def KeyedByPath (results : ResultSet) : Prop :=
  ∀ row ∈ results.rows, row.2.path = row.1

theorem keyedByPath_of_ofRecords_eq_ok {zone : Calendar.Zone} {conditions : List Condition}
    {records : List FileRecord} {results : ResultSet}
    (filtered : ofRecords zone conditions records = .ok results) : results.KeyedByPath := by
  rintro ⟨path, record⟩ member
  have found := (holdsLast_of_ofRecords_eq_ok filtered).get?_eq path
  rw [PathMap.get?_eq_some_iff.2 member] at found
  exact (mem_of_lastPassing_eq_some found.symm).2.1

theorem KeyedByPath.map_path_values {results : ResultSet} (keyed : results.KeyedByPath) :
    results.values.map FileRecord.path = results.paths := by
  rw [PathMap.values, PathMap.paths, List.map_map]
  exact List.map_congr_left keyed

theorem rows_foldl_insert {β : Type} (convert : FileRecord → β) {records : List FileRecord}
    {members : PathMap β}
    (ascending : (records.map FileRecord.path).Pairwise (· < ·))
    (behind : ∀ record ∈ records, ∀ row ∈ members.rows, row.1 < record.path) :
    (records.foldl (fun members record => members.insert record.path (convert record))
        members).rows =
      members.rows ++ records.map fun record => (record.path, convert record) := by
  induction records generalizing members with
  | nil => simp
  | cons record records ih =>
      have inserted : (members.insert record.path (convert record)).rows =
          members.rows ++ [(record.path, convert record)] :=
        PathMap.insertRow_of_forall_lt (behind record List.mem_cons_self) _
      rw [List.map_cons, List.pairwise_cons] at ascending
      rw [List.foldl_cons, ih ascending.2, inserted, List.append_assoc]
      · rfl
      · intro later member row inRows
        rw [inserted, List.mem_append, List.mem_singleton] at inRows
        rcases inRows with earlier | rfl
        · exact behind later (List.mem_cons_of_mem _ member) row earlier
        · exact ascending.1 _ (List.mem_map_of_mem member)

end ResultSet

/-- The JSON object of a result set has a member for each of its records, in their order. -/
theorem Printer.out_printResults_json_of_keyedByPath (zone : Calendar.Zone)
    (printer : JsonPrinter) (context : PrintContext) {results : ResultSet}
    (keyed : results.KeyedByPath) :
    ((Printer.json printer).printResults zone context results.values).out =
      (JsonValue.object (results.values.map fun record =>
        (record.path, JsonPrinter.recordValue zone record))).pretty 0 ++ ['\n'] := by
  have ascending : (results.values.map FileRecord.path).Pairwise (· < ·) := by
    rw [keyed.map_path_values, PathMap.paths, List.pairwise_map]
    exact results.ascending
  have behind : ∀ record ∈ results.values, ∀ row ∈ (PathMap.empty : PathMap JsonValue).rows,
      row.1 < record.path := by
    simp [PathMap.empty]
  rw [out_printResults_json,
    ResultSet.rows_foldl_insert (JsonPrinter.recordValue zone) ascending behind]
  rfl

end FileQuery
