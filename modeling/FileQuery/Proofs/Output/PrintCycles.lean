import FileQuery.Proofs.Output.TableLines

/-!
# Printers in any order of calls

A printer can be told anything in any order, and more than once. Whatever it has been told, every
row that a table printer holds was made from its present columns, because new columns come with no
rows; so each row has a cell for each column, and the widths can be computed. No column is `*`, as
each `*` was replaced when the columns were set, so a cell is always the text of a value.

What a printer holds when results begin is forgotten. A cycle of calls from there to the end of the
results is therefore written as a printer with the same settings writes it that holds nothing yet.
-/

namespace FileQuery

namespace Table

/-- The width of a column, unless one of the rows has no cell there. -/
def width? (rows : List (List Cell)) (index : Nat) (column : Field) : Option Nat :=
  (rows.mapM fun cells => cells[index]?.map List.length).map fun lengths =>
    lengths.foldl max (max column.title.toList.length minWidth)

/-- The widths of all columns, unless one of the rows lacks a cell. -/
def widths? (columns : List Field) (rows : List (List Cell)) : Option (List Nat) :=
  columns.zipIdx.mapM fun (column, index) => width? rows index column

theorem mapM_eq_some_map {α β : Type} {convert : α → Option β} {total : α → β} {items : List α}
    (defined : ∀ item ∈ items, convert item = some (total item)) :
    items.mapM convert = some (items.map total) := by
  induction items with
  | nil => rfl
  | cons item items ih =>
      have others := ih fun other member => defined other (List.mem_cons_of_mem item member)
      rw [List.mapM_cons, defined item List.mem_cons_self, others]
      rfl

theorem width?_eq_some {rows : List (List Cell)} {index : Nat} {column : Field}
    (reached : ∀ cells ∈ rows, index < cells.length) :
    width? rows index column = some (width rows index column) := by
  have lengths : rows.mapM (fun cells => cells[index]?.map List.length) =
      some (rows.map fun cells => (cells.getD index []).length) := by
    apply mapM_eq_some_map
    intro cells member
    simp [reached cells member]
  rw [width?, lengths, Option.map_some, width]

theorem widths?_eq_some {columns : List Field} {rows : List (List Cell)}
    (filled : ∀ cells ∈ rows, cells.length = columns.length) :
    widths? columns rows = some (widths columns rows) := by
  rw [widths, List.mapIdx_eq_zipIdx_map]
  apply mapM_eq_some_map
  rintro ⟨column, index⟩ member
  apply width?_eq_some
  intro cells inRows
  rw [filled cells inRows]
  exact List.snd_lt_of_mem_zipIdx member

example : widths? [.name, .owner] [[['a']]] = none := by
  decide

end Table

theorem FileRecord.exists_project_eq_ok_of_ne_all (record : FileRecord) {field : Field}
    (notAll : field ≠ .all) : ∃ value, record.project field = .ok value := by
  cases field with
  | all => exact absurd rfl notAll
  | permission | links | owner | group | fileSize | modified | created | name | extension | path
  | type => exact ⟨_, rfl⟩

/-- Each row that the printer holds is the row of a record that it was told, in its present columns,
and none of these is `*`. -/
structure TablePrinter.RowsOf (zone : Calendar.Zone) (told : List PrintStep)
    (printer : TablePrinter) : Prop where
  all_notMem : .all ∉ printer.columns
  exists_record : ∀ cells ∈ printer.rows, ∃ record, .record record ∈ told ∧
    cells = Table.row zone printer.columns record

/-- The rows that the printer holds fit its columns: every row has as many cells as there are
columns, so that their widths can be computed; and its cells are the texts of the values that some
record it was told has in these columns, all of which have values. -/
structure TablePrinter.Aligned (zone : Calendar.Zone) (told : List PrintStep)
    (printer : TablePrinter) : Prop where
  length_eq : ∀ cells ∈ printer.rows, cells.length = printer.columns.length
  widths?_eq : Table.widths? printer.columns printer.rows =
    some (Table.widths printer.columns printer.rows)
  all_notMem : .all ∉ printer.columns
  exists_values : ∀ cells ∈ printer.rows, ∃ record, .record record ∈ told ∧
    List.Forall₂ (fun column cell => ∃ value, record.project column = .ok value ∧
      cell = (value.render zone).toList) printer.columns cells

namespace TablePrinter.RowsOf

variable {zone : Calendar.Zone} {told : List PrintStep} {printer : TablePrinter}

theorem mono {later : List PrintStep} (rowsOf : printer.RowsOf zone told)
    (subset : told ⊆ later) : printer.RowsOf zone later where
  all_notMem := rowsOf.all_notMem
  exists_record cells member := by
    rcases rowsOf.exists_record cells member with ⟨record, wasTold, row_eq⟩
    exact ⟨record, subset wasTold, row_eq⟩

theorem begin (zone : Calendar.Zone) (told : List PrintStep) (printer : TablePrinter)
    (context : PrintContext) : (printer.begin context).RowsOf zone told where
  all_notMem := Field.all_notMem_expand context.query.fields
  exists_record _ member := absurd member List.not_mem_nil

theorem record (rowsOf : printer.RowsOf zone told) {record : FileRecord}
    (wasTold : .record record ∈ told) : (printer.record zone record).RowsOf zone told where
  all_notMem := rowsOf.all_notMem
  exists_record cells member := by
    rcases List.mem_append.1 member with earlier | last
    · exact rowsOf.exists_record cells earlier
    · exact ⟨record, wasTold, List.mem_singleton.1 last⟩

theorem finish (rowsOf : printer.RowsOf zone told) (context : PrintContext) :
    (printer.finish context).1.RowsOf zone told where
  all_notMem := rowsOf.all_notMem
  exists_record _ member := absurd member List.not_mem_nil

theorem aligned (rowsOf : printer.RowsOf zone told) : printer.Aligned zone told := by
  have length_eq : ∀ cells ∈ printer.rows, cells.length = printer.columns.length := by
    intro cells member
    rcases rowsOf.exists_record cells member with ⟨record, -, rfl⟩
    exact Table.length_row zone printer.columns record
  refine ⟨length_eq, Table.widths?_eq_some length_eq, rowsOf.all_notMem, ?_⟩
  intro cells member
  rcases rowsOf.exists_record cells member with ⟨record, wasTold, rfl⟩
  refine ⟨record, wasTold, ?_⟩
  rw [Table.row, List.forall₂_map_right_iff, List.forall₂_same]
  intro column isColumn
  have notAll : column ≠ .all := fun same => rowsOf.all_notMem (same ▸ isColumn)
  rcases record.exists_project_eq_ok_of_ne_all notAll with ⟨value, projected⟩
  exact ⟨value, projected, by rw [FileRecord.renderField, projected]⟩

end TablePrinter.RowsOf

namespace Printer

variable {zone : Calendar.Zone}

/-- One call keeps the rows of a table printer in line with its columns. -/
theorem exists_rowsOf_perform {told : List PrintStep} {printer : TablePrinter}
    (rowsOf : printer.RowsOf zone told) {step : PrintStep} (wasTold : step ∈ told) :
    ∃ next : TablePrinter, ((table printer).perform zone step).1 = table next ∧
      next.RowsOf zone told := by
  cases step with
  | begin context => exact ⟨_, rfl, .begin zone told printer context⟩
  | record record => exact ⟨_, rfl, rowsOf.record wasTold⟩
  | finish context => exact ⟨_, rfl, rowsOf.finish context⟩

theorem exists_rowsOf_after {told : List PrintStep} {printer : TablePrinter}
    (rowsOf : printer.RowsOf zone told) {steps : List PrintStep} (wereTold : steps ⊆ told) :
    ∃ last : TablePrinter, (table printer).after zone steps = table last ∧
      last.RowsOf zone told := by
  induction steps generalizing printer with
  | nil => exact ⟨printer, rfl, rowsOf⟩
  | cons step steps ih =>
      rw [List.cons_subset] at wereTold
      rcases exists_rowsOf_perform rowsOf wereTold.1 with ⟨next, performed, nextRows⟩
      rcases ih nextRows wereTold.2 with ⟨last, left, lastRows⟩
      exact ⟨last, by rw [after, performed, left], lastRows⟩

/-- The printer with the same settings that holds nothing yet. -/
def renewed : Printer → Printer
  | table printer => table { color := printer.color, showTiming := printer.showTiming }
  | json printer => json { showTiming := printer.showTiming }

theorem renewed_fresh (format : OutputFormat) (color showTiming : Bool) :
    (fresh format color showTiming).renewed = fresh format color showTiming := by
  cases format <;> rfl

theorem renewed_perform (printer : Printer) (step : PrintStep) :
    (printer.perform zone step).1.renewed = printer.renewed := by
  cases printer <;> cases step <;> rfl

theorem renewed_after (printer : Printer) (steps : List PrintStep) :
    (printer.after zone steps).renewed = printer.renewed := by
  induction steps generalizing printer with
  | nil => rfl
  | cons step steps ih => rw [after, ih, renewed_perform]

/-- From where results begin, a printer writes what it would write if it held nothing. -/
theorem performAll_begin (printer : Printer) (context : PrintContext) (steps : List PrintStep) :
    printer.performAll zone (.begin context :: steps) =
      printer.renewed.performAll zone (.begin context :: steps) := by
  cases printer <;> rfl

end Printer

/-- The calls for one set of results: they begin, each record follows, and they are finished. -/
structure PrintCycle where
  opening : PrintContext
  records : List FileRecord
  closing : PrintContext

namespace PrintCycle

def steps (cycle : PrintCycle) : List PrintStep :=
  .begin cycle.opening :: cycle.records.map .record ++ [.finish cycle.closing]

theorem performAll_steps (zone : Calendar.Zone) (printer : Printer) (cycle : PrintCycle) :
    printer.performAll zone cycle.steps = printer.renewed.performAll zone cycle.steps :=
  printer.performAll_begin cycle.opening (cycle.records.map .record ++ [.finish cycle.closing])

theorem performAll_flatMap_steps (zone : Calendar.Zone) (printer : Printer)
    (cycles : List PrintCycle) :
    printer.performAll zone (cycles.flatMap steps) =
      cycles.flatMap fun cycle => printer.renewed.performAll zone cycle.steps := by
  induction cycles generalizing printer with
  | nil => rfl
  | cons cycle cycles ih =>
      rw [List.flatMap_cons, List.flatMap_cons, Printer.performAll_append, ih,
        Printer.renewed_after, performAll_steps]

end PrintCycle

/-- Whatever a table printer has been told, in whatever order, its rows fit its columns. And in
either format, after any calls, each call of each complete cycle writes to both outputs what it
writes in that cycle alone with a fresh printer. -/
theorem printer_carries_nothing_over (zone : Calendar.Zone) (color showTiming : Bool) :
    (∀ told : List PrintStep, ∃ printer : TablePrinter,
      (Printer.fresh .table color showTiming).after zone told = .table printer ∧
        printer.Aligned zone told) ∧
    ∀ (format : OutputFormat) (before : List PrintStep) (cycles : List PrintCycle),
      let fresh := Printer.fresh format color showTiming
      fresh.performAll zone (before ++ cycles.flatMap PrintCycle.steps) =
        fresh.performAll zone before ++
          cycles.flatMap fun cycle => fresh.performAll zone cycle.steps := by
  constructor
  · intro told
    have nothing : ({ color, showTiming } : TablePrinter).RowsOf zone told :=
      ⟨List.not_mem_nil, fun _ member => absurd member List.not_mem_nil⟩
    rcases Printer.exists_rowsOf_after nothing (List.Subset.refl told) with
      ⟨printer, left, rowsOf⟩
    exact ⟨printer, left, rowsOf.aligned⟩
  · intro format before cycles fresh
    have settings : (fresh.after zone before).renewed = fresh :=
      (Printer.renewed_after fresh before).trans (Printer.renewed_fresh format color showTiming)
    rw [Printer.performAll_append, PrintCycle.performAll_flatMap_steps, settings]

end FileQuery
