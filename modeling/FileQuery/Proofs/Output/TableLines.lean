import FileQuery.Proofs.Filter.Failure
import FileQuery.Proofs.Output.Printed

/-!
# Lines of a table

A table is written line by line, and each line is closed by a line break. The cells of a line are
written as they are, and only the spaces at its end are dropped. A line break of a cell is therefore
written, and splits the line, exactly when a character that is no space comes behind it, in the same
cell or in a later one. Titles have no line breaks, so the header is always one line.
-/

namespace FileQuery

namespace Text

/-- A line break of the text stands before a character that is no space. -/
def BreaksInside (text : List Char) : Prop :=
  ∃ c, isSpace c = false ∧ List.Sublist ['\n', c] text

/-- The line breaks that trimming leaves are those before a character that is no space. -/
theorem newline_mem_trimEnd_iff {text : List Char} :
    '\n' ∈ trimEnd text ↔ BreaksInside text := by
  have trimmed : trimEnd text = text.rdropWhile isSpace := rfl
  rw [trimmed]
  constructor
  · intro member
    have nonempty := List.ne_nil_of_mem member
    have last := List.rdropWhile_last_not isSpace text nonempty
    refine ⟨_, by simpa using last, ?_⟩
    refine List.Sublist.trans ?_ (List.rdropWhile_prefix isSpace text).sublist
    rw [← List.dropLast_append_getLast nonempty, List.mem_append, List.mem_singleton] at member
    rcases member with earlier | isLast
    · have ends := (List.singleton_sublist.2 earlier).append
        (List.Sublist.refl [(text.rdropWhile isSpace).getLast nonempty])
      rwa [List.dropLast_append_getLast nonempty] at ends
    · rw [← isLast] at last
      exact absurd (by decide) last
  · rintro ⟨c, visible, sublist⟩
    rw [← List.rdropWhile_append_rtakeWhile (p := isSpace) (l := text),
      List.sublist_append_iff] at sublist
    rcases sublist with ⟨kept, dropped, split, inKept, inDropped⟩
    rcases List.eq_nil_or_concat' dropped with rfl | ⟨init, last, rfl⟩
    · rw [List.append_nil] at split
      exact inKept.subset (split ▸ List.mem_cons_self)
    · have same : c = last := by
        have lasts := congrArg List.getLast? split
        simpa using lasts
      have space := List.mem_rtakeWhile_imp (inDropped.subset List.mem_concat_self)
      rw [← same, visible] at space
      cases space

/-- Blanks between the characters of a text make no difference. -/
theorem breaksInside_filter_iff {text : List Char} :
    BreaksInside (text.filter (· ≠ ' ')) ↔ BreaksInside text := by
  constructor
  · rintro ⟨c, visible, sublist⟩
    exact ⟨c, visible, sublist.trans List.filter_sublist⟩
  · rintro ⟨c, visible, sublist⟩
    have notBlank : c ≠ ' ' := by
      rintro rfl
      cases visible
    refine ⟨c, visible, ?_⟩
    simpa [notBlank] using sublist.filter (· ≠ ' ')

end Text

namespace Table

theorem filter_padded (cell : Cell) (width : Nat) :
    (padded cell width).filter (· ≠ ' ') = cell.filter (· ≠ ' ') := by
  simp [padded, List.rightpad]

theorem filter_flatten_zipWith_padded {cells : List Cell} {widths : List Nat}
    (same : cells.length = widths.length) :
    (List.zipWith padded cells widths).flatten.filter (· ≠ ' ') =
      cells.flatten.filter (· ≠ ' ') := by
  induction cells generalizing widths with
  | nil => rfl
  | cons cell cells ih =>
      cases widths with
      | nil => cases same
      | cons width widths =>
          rw [List.zipWith_cons_cons, List.flatten_cons, List.flatten_cons, List.filter_append,
            List.filter_append, filter_padded, ih (Nat.succ.inj same)]

theorem newline_mem_line_iff {widths : List Nat} {cells : List Cell}
    (same : cells.length = widths.length) :
    '\n' ∈ line widths cells ↔ Text.BreaksInside cells.flatten := by
  rw [line, Text.newline_mem_trimEnd_iff, ← Text.breaksInside_filter_iff,
    filter_flatten_zipWith_padded same, Text.breaksInside_filter_iff]

@[simp]
theorem length_widths (columns : List Field) (rows : List (List Cell)) :
    (widths columns rows).length = columns.length :=
  List.length_mapIdx

@[simp]
theorem length_row (zone : Calendar.Zone) (columns : List Field) (record : FileRecord) :
    (row zone columns record).length = columns.length :=
  List.length_map _

@[simp]
theorem length_titles (columns : List Field) : (titles columns).length = columns.length :=
  List.length_map _

theorem newline_notMem_title (field : Field) : '\n' ∉ field.title.toList := by
  cases field <;> decide

theorem newline_notMem_header {columns : List Field} {widths : List Nat}
    (same : columns.length = widths.length) : '\n' ∉ line widths (titles columns) := by
  rw [newline_mem_line_iff ((length_titles columns).trans same)]
  rintro ⟨c, -, sublist⟩
  have member := sublist.subset List.mem_cons_self
  rcases List.mem_flatten.1 member with ⟨cell, isTitle, inCell⟩
  rcases List.mem_map.1 isTitle with ⟨field, -, rfl⟩
  exact newline_notMem_title field inCell

@[simp]
theorem newline_mem_colored_iff {text : List Char} : '\n' ∈ colored text ↔ '\n' ∈ text := by
  have opened : '\n' ∉ "\x1b[1;36m".toList := by decide
  have closed : '\n' ∉ "\x1b[0m".toList := by decide
  unfold colored
  rw [List.mem_append, List.mem_append]
  constructor
  · rintro ((inOpening | member) | inClosing)
    · exact absurd inOpening opened
    · exact member
    · exact absurd inClosing closed
  · exact fun member => .inl (.inr member)

theorem count_newline_closed (lines : List (List Char)) :
    (lines.flatMap (· ++ ['\n'])).count '\n' =
      lines.length + (lines.map (List.count '\n')).sum := by
  induction lines with
  | nil => rfl
  | cons line lines ih =>
      simp only [List.flatMap_cons, List.count_append, ih, List.count_singleton_self,
        List.length_cons, List.map_cons, List.sum_cons]
      omega

theorem count_newline_closed_eq_length_iff {lines : List (List Char)} :
    (lines.flatMap (· ++ ['\n'])).count '\n' = lines.length ↔ ∀ line ∈ lines, '\n' ∉ line := by
  rw [count_newline_closed, Nat.add_eq_left, List.sum_eq_zero_iff]
  simp [List.count_eq_zero]

theorem exists_closed_eq_append_newline {lines : List (List Char)} (nonempty : lines ≠ []) :
    ∃ text, lines.flatMap (· ++ ['\n']) = text ++ ['\n'] := by
  rw [← List.dropLast_append_getLast nonempty, List.flatMap_append, List.flatMap_singleton,
    ← List.append_assoc]
  exact ⟨_, rfl⟩

section Lines

variable (zone : Calendar.Zone) (color : Bool) (columns : List Field)
  (records : List FileRecord)

/-- The lines of a table are a header without a line break and a line for each record, which has a
line break exactly when one of its cells breaks it. -/
theorem exists_lines_eq :
    ∃ header lines,
      Table.lines color columns (records.map (row zone columns)) = header :: lines ∧
      '\n' ∉ header ∧
      List.Forall₂ (fun record line => '\n' ∈ line ↔
        Text.BreaksInside (row zone columns record).flatten) records lines := by
  refine ⟨_, _, rfl, ?_, ?_⟩
  · have plain : '\n' ∉ line (widths columns (records.map (row zone columns)))
        (titles columns) := newline_notMem_header (by simp)
    cases color with
    | false => exact plain
    | true => exact mt newline_mem_colored_iff.1 plain
  · simp only [List.map_map, List.forall₂_map_right_iff, List.forall₂_same]
    intro record _
    exact newline_mem_line_iff (by simp)

theorem count_newline_render_iff :
    (render color columns (records.map (row zone columns))).count '\n' = 1 + records.length ↔
      ∀ record ∈ records, ¬Text.BreaksInside (row zone columns record).flatten := by
  rcases exists_lines_eq zone color columns records with ⟨header, lines, split, plain, broken⟩
  have length : (header :: lines).length = 1 + records.length := by
    rw [List.length_cons, broken.length_eq, Nat.add_comm]
  rw [render, split, ← length, count_newline_closed_eq_length_iff, List.forall_mem_cons,
    and_iff_right plain]
  clear split length
  induction broken with
  | nil => simp
  | cons same _ ih => simp only [List.forall_mem_cons, same, ih]

end Lines

end Table

/-- A printed table consists of a header line and a line for each record, each closed by a line
break. It has no other line breaks exactly when no record has a line break in one of its cells with
a character behind it, in this cell or a later one, that is no space. -/
theorem printed_table_lines (zone : Calendar.Zone) (printer : TablePrinter)
    (context : PrintContext) (results : ResultSet) :
    let columns := Field.expand context.query.fields
    let out := ((Printer.table printer).printResults zone context results.values).out
    (∃ header lines,
      Table.lines printer.color columns (results.values.map (Table.row zone columns)) =
        header :: lines ∧
      out = (header :: lines).flatMap (· ++ ['\n']) ∧
      '\n' ∉ header ∧
      List.Forall₂ (fun record line => '\n' ∈ line ↔
        Text.BreaksInside (Table.row zone columns record).flatten) results.values lines) ∧
    (∃ text, out = text ++ ['\n']) ∧
    (out.count '\n' = 1 + results.size ↔ ∀ record ∈ results.values,
      ¬Text.BreaksInside (Table.row zone columns record).flatten) := by
  intro columns out
  have out_eq : out = Table.render printer.color columns
      (results.values.map (Table.row zone columns)) :=
    Printer.out_printResults_table printer context results.values
  have size : results.size = results.values.length := (List.length_map Prod.snd).symm
  refine ⟨?_, ?_, ?_⟩
  · rcases Table.exists_lines_eq zone printer.color columns results.values with
      ⟨header, lines, split, plain, broken⟩
    refine ⟨header, lines, split, ?_, plain, broken⟩
    rw [out_eq, Table.render, split]
  · rw [out_eq]
    exact Table.exists_closed_eq_append_newline (List.cons_ne_nil _ _)
  · rw [out_eq, size]
    exact Table.count_newline_render_iff zone printer.color columns results.values

/-- A file whose name has a line break takes two lines. -/
theorem not_forall_count_newline_printed_table :
    ¬∀ (zone : Calendar.Zone) (printer : TablePrinter) (context : PrintContext)
      (results : ResultSet), results.KeyedByPath →
      ((Printer.table printer).printResults zone context results.values).out.count '\n' =
        1 + results.size := by
  intro always
  let nameQuery : Query := { fields := [.name], paths := ["d"], conditions := [] }
  let context : PrintContext := { query := nameQuery, total := 1, scanned := 1, metrics := none }
  have keyed : ResultSet.KeyedByPath
      (PathMap.empty.insert (FileRecord.named "a\nb").path (FileRecord.named "a\nb")) := by
    intro row member
    rw [List.mem_singleton.1 member]
  have lines := always .universal { color := false, showTiming := false } context _ keyed
  rw [Printer.out_printResults_table] at lines
  have whole := (Table.count_newline_render_iff .universal false [.name]
    [FileRecord.named "a\nb"]).1 lines _ List.mem_cons_self
  have name : (Table.row .universal [.name] (FileRecord.named "a\nb")).flatten =
      ['a', '\n', 'b'] := by
    decide
  rw [name] at whole
  exact whole ⟨'b', by decide, by decide⟩

end FileQuery
