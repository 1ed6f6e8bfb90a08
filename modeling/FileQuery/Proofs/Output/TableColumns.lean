import FileQuery.Proofs.Output.TableLines

/-!
# Columns of a table

Every column is as wide as its title and all its cells, so that the cells of a line start at fixed
places, which depend on the widths alone. The spaces that a line loses at its end can belong to its
cells, and whole columns can be lost with them. They are spaces all the same: a column of a line
that is made longer by blanks again holds its cell up to the spaces behind the cell. Lines that are
the same therefore have the same cells, up to these spaces.
-/

namespace FileQuery

namespace Text

theorem exists_trimEnd_append (text : List Char) :
    ∃ spaces, text = trimEnd text ++ spaces ∧ ∀ c ∈ spaces, isSpace c = true :=
  ⟨text.rtakeWhile isSpace, (List.rdropWhile_append_rtakeWhile).symm,
    fun _ member => List.mem_rtakeWhile_imp member⟩

theorem trimEnd_append_of_isSpace {spaces : List Char} (space : ∀ c ∈ spaces, isSpace c = true)
    (text : List Char) : trimEnd (text ++ spaces) = trimEnd text := by
  rw [trimEnd, List.reverse_append, List.dropWhile_append_of_pos, trimEnd]
  intro c member
  exact space c (List.mem_reverse.1 member)

theorem isSpace_of_mem_replicate_blank {count : Nat} :
    ∀ c ∈ List.replicate count ' ', isSpace c = true := by
  intro c member
  rw [List.eq_of_mem_replicate member]
  decide

/-- A piece of a text is the same piece of the trimmed text, up to the spaces behind it. -/
theorem trimEnd_take_drop_trimEnd (text : List Char) (start length : Nat) :
    trimEnd (((trimEnd text).drop start).take length) =
      trimEnd ((text.drop start).take length) := by
  rcases exists_trimEnd_append text with ⟨spaces, split, space⟩
  have piece : (text.drop start).take length =
      ((trimEnd text).drop start).take length ++
        (spaces.drop (start - (trimEnd text).length)).take
          (length - ((trimEnd text).drop start).length) := by
    conv_lhs => rw [split]
    rw [List.drop_append, List.take_append]
  rw [piece, trimEnd_append_of_isSpace]
  intro c member
  exact space c (List.mem_of_mem_drop (List.mem_of_mem_take member))

/-- Texts that differ only in the spaces at their ends have the same pieces, up to spaces. -/
theorem trimEnd_take_drop_congr {text other : List Char} (same : trimEnd text = trimEnd other)
    (start length : Nat) :
    trimEnd ((text.drop start).take length) = trimEnd ((other.drop start).take length) := by
  rw [← trimEnd_take_drop_trimEnd text, same, trimEnd_take_drop_trimEnd]

end Text

namespace Table

/-- The place in a line at which a column starts, behind the columns before it and the two blanks
behind each of them. -/
def offset (widths : List Nat) (index : Nat) : Nat :=
  ((widths.take index).map (· + 2)).sum

/-- No cell is longer than its column is wide. -/
def Fits (widths : List Nat) (cells : List Cell) : Prop :=
  List.Forall₂ (fun cell width => cell.length ≤ width) cells widths

/-- At a place of the text stands the cell without the spaces at its end, and from there up to the
end of the column and of the two blanks behind it there are only spaces. -/
def StandsAt (cell : Cell) (start width : Nat) (text : List Char) : Prop :=
  ∃ before spaces after, text = before ++ Text.trimEnd cell ++ spaces ++ after ∧
    before.length = start ∧ (Text.trimEnd cell ++ spaces).length = width + 2 ∧
    ∀ c ∈ spaces, Text.isSpace c = true

variable {widths : List Nat} {cells : List Cell} {cell : Cell} {width index : Nat}

theorem length_padded_of_le (fits : cell.length ≤ width) :
    (padded cell width).length = width + 2 := by
  rw [padded, List.length_append, List.length_rightpad, max_eq_left fits]
  rfl

theorem trimEnd_padded (cell : Cell) (width : Nat) :
    Text.trimEnd (padded cell width) = Text.trimEnd cell := by
  have blanks : padded cell width =
      cell ++ (List.replicate (width - cell.length) ' ' ++ List.replicate 2 ' ') := by
    rw [padded, List.rightpad, List.append_assoc]
    rfl
  rw [blanks, Text.trimEnd_append_of_isSpace]
  intro c member
  rcases List.mem_append.1 member with inPadding | behind
  · exact Text.isSpace_of_mem_replicate_blank c inPadding
  · exact Text.isSpace_of_mem_replicate_blank c behind

@[simp]
theorem offset_cons_succ (width : Nat) (widths : List Nat) (index : Nat) :
    offset (width :: widths) (index + 1) = width + 2 + offset widths index := rfl

/-- Before anything is trimmed, each cell starts where its column does. -/
theorem take_drop_flatten_padded (fits : Fits widths cells) (isCell : cells[index]? = some cell)
    (isWidth : widths[index]? = some width) :
    ((List.zipWith padded cells widths).flatten.drop (offset widths index)).take (width + 2) =
      padded cell width := by
  induction fits generalizing index with
  | nil => cases isCell
  | @cons first firstWidth cells widths firstFits fits ih =>
      have length := length_padded_of_le firstFits
      rw [List.zipWith_cons_cons, List.flatten_cons]
      cases index with
      | zero =>
          cases isCell
          cases isWidth
          exact List.take_left' length
      | succ index =>
          rw [offset_cons_succ, ← List.drop_drop, List.drop_left' length]
          exact ih isCell isWidth

theorem standsAt_of_trimEnd_eq {text : List Char} {start : Nat}
    (inside : start + width + 2 ≤ text.length)
    (same : Text.trimEnd ((text.drop start).take (width + 2)) = Text.trimEnd cell) :
    StandsAt cell start width text := by
  rcases Text.exists_trimEnd_append ((text.drop start).take (width + 2)) with
    ⟨spaces, split, space⟩
  rw [same] at split
  refine ⟨text.take start, spaces, (text.drop start).drop (width + 2), ?_, ?_, ?_, space⟩
  · rw [List.append_assoc (text.take start), ← split, List.append_assoc,
      List.take_append_drop, List.take_append_drop]
  · rw [List.length_take]
    omega
  · rw [← split, List.length_take, List.length_drop]
    omega

/-- Each column of a line has its cell, up to spaces, however many blanks follow the line. -/
theorem trimEnd_take_drop_line (fits : Fits widths cells) (isCell : cells[index]? = some cell)
    (isWidth : widths[index]? = some width) (count : Nat) :
    Text.trimEnd (((line widths cells ++ List.replicate count ' ').drop
      (offset widths index)).take (width + 2)) = Text.trimEnd cell := by
  have same : Text.trimEnd (line widths cells ++ List.replicate count ' ') =
      Text.trimEnd (List.zipWith padded cells widths).flatten := by
    rw [Text.trimEnd_append_of_isSpace Text.isSpace_of_mem_replicate_blank]
    exact List.rdropWhile_idempotent Text.isSpace _
  rw [Text.trimEnd_take_drop_congr same, take_drop_flatten_padded fits isCell isWidth,
    trimEnd_padded]

theorem standsAt_line (fits : Fits widths cells) (isCell : cells[index]? = some cell)
    (isWidth : widths[index]? = some width) {count : Nat}
    (inside : offset widths index + width + 2 ≤
      (line widths cells ++ List.replicate count ' ').length) :
    StandsAt cell (offset widths index) width
      (line widths cells ++ List.replicate count ' ') :=
  standsAt_of_trimEnd_eq inside (trimEnd_take_drop_line fits isCell isWidth count)

theorem map_trimEnd_eq_of_line_eq {others : List Cell} (fits : Fits widths cells)
    (fits' : Fits widths others) (same : line widths cells = line widths others) :
    cells.map Text.trimEnd = others.map Text.trimEnd := by
  have length : cells.length = others.length := fits.length_eq.trans fits'.length_eq.symm
  apply List.ext_getElem
  · rw [List.length_map, List.length_map, length]
  · intro index bound bound'
    rw [List.length_map] at bound bound'
    rw [List.getElem_map, List.getElem_map]
    have isWidth := List.getElem?_eq_getElem (fits.length_eq ▸ bound)
    rw [← trimEnd_take_drop_line fits (List.getElem?_eq_getElem bound) isWidth 0, same]
    exact trimEnd_take_drop_line fits' (List.getElem?_eq_getElem bound') isWidth 0

theorem le_foldl_max {init n : Nat} {lengths : List Nat} (member : n ∈ init :: lengths) :
    n ≤ lengths.foldl max init := by
  induction lengths generalizing init n with
  | nil => exact (List.mem_singleton.1 member).le
  | cons length lengths ih =>
      rw [List.foldl_cons]
      have below : max init length ≤ lengths.foldl max (max init length) := ih List.mem_cons_self
      rcases List.mem_cons.1 member with rfl | later
      · exact le_trans (le_max_left n length) below
      · rcases List.mem_cons.1 later with rfl | later
        · exact le_trans (le_max_right init n) below
        · exact ih (List.mem_cons_of_mem _ later)

theorem fits_widths_map {columns : List Field} {rows : List (List Cell)} {shown : Field → Cell}
    (bounded : ∀ (index : Nat) (column : Field), columns[index]? = some column →
      (shown column).length ≤ Table.width rows index column) :
    Fits (Table.widths columns rows) (columns.map shown) := by
  rw [Fits, Table.widths, List.forall₂_iff_get]
  constructor
  · rw [List.length_map, List.length_mapIdx]
  · intro index bound bound'
    rw [List.length_map] at bound
    simpa using bounded index columns[index] (List.getElem?_eq_getElem bound)

theorem fits_titles (columns : List Field) (rows : List (List Cell)) :
    Fits (Table.widths columns rows) (titles columns) := by
  apply fits_widths_map
  intro index column _
  exact le_trans (le_max_left _ minWidth) (le_foldl_max List.mem_cons_self)

theorem fits_row {zone : Calendar.Zone} {columns : List Field} {records : List FileRecord}
    {record : FileRecord} (member : record ∈ records) :
    Fits (Table.widths columns (records.map (row zone columns))) (row zone columns record) := by
  apply fits_widths_map
  intro index column isColumn
  have isCell : (row zone columns record).getD index [] =
      (record.renderField zone column).toList := by
    simp [row, isColumn]
  rw [← isCell]
  apply le_foldl_max
  apply List.mem_cons_of_mem
  exact List.mem_map_of_mem (List.mem_map_of_mem member)

theorem render_eq (color : Bool) (columns : List Field) (rows : List (List Cell)) :
    render color columns rows =
      (if color then colored (line (Table.widths columns rows) (titles columns))
        else line (Table.widths columns rows) (titles columns)) ++
      '\n' :: rows.flatMap fun cells => line (Table.widths columns rows) cells ++ ['\n'] := by
  simp only [render, lines, List.flatMap_cons, List.flatMap_map, List.append_assoc,
    List.singleton_append]

/-- How a line of a table shows its cells: none is longer than its column is wide, and once blanks
are added to the line so that it has a column, the cell stands where the column starts. -/
structure Shows (widths : List Nat) (cells : List Cell) : Prop where
  fits : Fits widths cells
  standsAt : ∀ (index : Nat) (cell : Cell) (width count : Nat), cells[index]? = some cell →
    widths[index]? = some width →
    offset widths index + width + 2 ≤ (line widths cells ++ List.replicate count ' ').length →
      StandsAt cell (offset widths index) width
        (line widths cells ++ List.replicate count ' ')

theorem Fits.shows (fits : Fits widths cells) : Shows widths cells where
  fits := fits
  standsAt _ _ _ _ isCell isWidth inside := standsAt_line fits isCell isWidth inside

end Table

/-- The header and every row of a printed table are lines that show their cells in the columns of
the table, rows with the same line have the same cells up to the spaces at their ends, and color
adds nothing but two escape sequences around the header. -/
theorem printed_table_columns (zone : Calendar.Zone) (printer : TablePrinter)
    (context : PrintContext) (results : ResultSet) :
    let columns := Field.expand context.query.fields
    let rows := results.values.map (Table.row zone columns)
    let widths := Table.widths columns rows
    let header := Table.line widths (Table.titles columns)
    let lines := '\n' :: rows.flatMap fun cells => Table.line widths cells ++ ['\n']
    let out := fun color =>
      ((Printer.table { printer with color }).printResults zone context results.values).out
    out false = header ++ lines ∧
    out true = "\x1b[1;36m".toList ++ header ++ "\x1b[0m".toList ++ lines ∧
    (∀ cells ∈ Table.titles columns :: rows, Table.Shows widths cells) ∧
    ∀ cells ∈ rows, ∀ others ∈ rows, Table.line widths cells = Table.line widths others →
      cells.map Text.trimEnd = others.map Text.trimEnd := by
  intro columns rows widths header lines out
  have fits : ∀ cells ∈ rows, Table.Fits widths cells := by
    intro cells member
    rcases List.mem_map.1 member with ⟨record, inResults, rfl⟩
    exact Table.fits_row inResults
  have out_eq : ∀ color, out color = Table.render color columns rows := fun _ =>
    Printer.out_printResults_table _ context results.values
  refine ⟨?_, ?_, ?_, ?_⟩
  · exact (out_eq false).trans (Table.render_eq false columns rows)
  · exact (out_eq true).trans (Table.render_eq true columns rows)
  · rw [List.forall_mem_cons]
    exact ⟨(Table.fits_titles columns rows).shows, fun cells member => (fits cells member).shows⟩
  · intro cells member others member' same
    exact Table.map_trimEnd_eq_of_line_eq (fits cells member) (fits others member') same

/-- Two names that only a space at the end tells apart have the same line. -/
theorem printed_table_columns_spaced_name :
    let plain := FileRecord.named "a"
    let spaced : FileRecord := { FileRecord.named "b" with name := "a\u3000" }
    let results : ResultSet := (PathMap.empty.insert plain.path plain).insert spaced.path spaced
    let row := Table.row .universal [.name]
    let widths := Table.widths [.name] (results.values.map row)
    row plain ≠ row spaced ∧
      Table.line widths (row plain) = Table.line widths (row spaced) ∧
      Table.Shows widths (row spaced) ∧
      (row plain).map Text.trimEnd = (row spaced).map Text.trimEnd := by
  intro plain spaced results row widths
  let nameQuery : Query := { fields := [.name], paths := ["d"], conditions := [] }
  let context : PrintContext := { query := nameQuery, total := 2, scanned := 2, metrics := none }
  rcases printed_table_columns .universal { color := false, showTiming := false } context results
    with ⟨-, -, shows, same⟩
  have rows : results.values.map row = [row plain, row spaced] := by decide
  have plainRow : row plain ∈ results.values.map row := by simp [rows]
  have spacedRow : row spaced ∈ results.values.map row := by simp [rows]
  have equal : Table.line widths (row plain) = Table.line widths (row spaced) := by decide
  exact ⟨by decide, equal, shows _ (List.mem_cons_of_mem _ spacedRow),
    same _ plainRow _ spacedRow equal⟩

end FileQuery
